import FilterGraph.Proofs.EqualViews
import FilterGraph.Proofs.Resembling
import FilterGraph.Store.Reading

/-!
# Equal nodes

A value of a store stands for a node of a graph when each of its fields holds what such a field is
meant to hold; `View.node?` reads the node off a view. Nodes that are read off equal values resemble
each other (`View.Respects.node`): equal streams are the same stream, and equal stages differ at
most in the entries of their keyed options and in loose values. Each reader of a field respects
equality in this way, and the node is put together from what they read.
-/

set_option autoImplicit false

namespace FilterGraph

/-- Atoms that have characters are equal if these are. -/
theorem Atom.characters_eq_of_equal {x y : Atom} (h : x.equal y = true) {s t : String}
    (hx : x.characters? = some s) (hy : y.characters? = some t) : s = t := by
  have hequal : x.equal y = (s == t) := by
    unfold Atom.equal
    split
    · exact nomatch hx
    · exact nomatch hx
    · rw [hx, hy]
  rwa [hequal, beq_iff_eq] at h

namespace Store.View

/-- What is read off agreeing views is related. -/
def Respects {α : Type} (read : View → Option α) (related : α → α → Prop) : Prop :=
  ∀ ⦃u v : View⦄, u.Agrees v → ∀ ⦃x y : α⦄, read u = some x → read v = some y → related x y

namespace Respects

variable {α : Type} {read : View → Option α} {related : α → α → Prop}

/-- Texts that agree are the same. -/
theorem text : Respects text? Eq := by
  intro u v hagrees s t hs ht
  obtain rfl := text?_eq_some hs
  obtain rfl := text?_eq_some ht
  cases hagrees with
  | same => rfl
  | atom h => simpa [Atom.equal, Atom.characters?] using h

/-- Lists that agree have related items, one by one. -/
theorem items (h : Respects read related) : Respects (items? read) (List.Forall₂ related) := by
  have hitems : ∀ us vs : List View, List.Forall₂ Agrees us vs → ∀ xs ys : List α,
      List.Forall₂ (fun u x => read u = some x) us xs →
      List.Forall₂ (fun v y => read v = some y) vs ys → List.Forall₂ related xs ys := by
    intro us vs hagree
    induction hagree with
    | nil =>
      intro xs ys hxs hys
      cases hxs
      cases hys
      exact .nil
    | cons hfirst _ ih =>
      intro xs ys hxs hys
      cases hxs with
      | cons hx hxs =>
        cases hys with
        | cons hy hys => exact .cons (h hfirst hx hy) (ih _ _ hxs hys)
  intro u v hagrees xs ys hxs hys
  obtain ⟨us, rfl, hreadx⟩ := items?_eq_some hxs
  obtain ⟨vs, rfl, hready⟩ := items?_eq_some hys
  have hagree : List.Forall₂ Agrees us vs := by
    cases hagrees with
    | same => exact List.forall₂_same.2 fun u _ => .same u
    | list h => exact h
  exact hitems us vs hagree xs ys hreadx hready

/-- Fields of agreeing objects are read alike. -/
theorem field (h : Respects read related) {shape : Shape} {us vs : List (String × View)}
    (hagrees : Agrees (.record shape us) (.record shape vs)) {name : String}
    (hname : name ∈ shape.fieldNames) {x y : α} (hx : readField name read us = some x)
    (hy : readField name read vs = some y) : related x y := by
  obtain ⟨u, hu, hx⟩ := readField_eq_some hx
  obtain ⟨v, hv, hy⟩ := readField_eq_some hy
  obtain ⟨_, heq, hfields⟩ := hagrees.field
  obtain ⟨-, rfl⟩ := View.record.inj heq
  obtain ⟨other, hother, hagrees⟩ := hfields name hname u hu
  obtain rfl : v = other := Option.some.inj (hv.symm.trans hother)
  exact h hagrees hx hy

/-- Options that agree resemble each other: what is keyed on one side is keyed on the other one, and
raw texts that agree are the same. -/
theorem options : Respects options? Options.Resembles := by
  intro u v hagrees x y hx hy
  have hloose : u.scalar?.map Options.loose = some x → v.scalar?.map Options.loose = some y →
      x.Resembles y := by
    intro hx hy
    obtain ⟨a, -, rfl⟩ := Option.map_eq_some_iff.1 hx
    obtain ⟨b, -, rfl⟩ := Option.map_eq_some_iff.1 hy
    exact .loose a b
  cases hagrees with
  | same =>
    obtain rfl := Option.some.inj (hx.symm.trans hy)
    exact .refl x
  | atom => exact hloose hx hy
  | list => exact hloose hx hy
  | dictionary => exact hloose hx hy
  | record partner found agrees =>
    rename_i shape us vs
    -- records agree with records of their shape only, and no other records are payloads
    cases shape with
    | keyed =>
      obtain ⟨xs, -, rfl⟩ := Option.map_eq_some_iff.1 hx
      obtain ⟨ys, -, rfl⟩ := Option.map_eq_some_iff.1 hy
      exact .keyed xs ys
    | raw =>
      obtain ⟨s, hs, rfl⟩ := Option.map_eq_some_iff.1 hx
      obtain ⟨t, ht, rfl⟩ := Option.map_eq_some_iff.1 hy
      obtain rfl := text.field (.record partner found agrees) (by decide) hs ht
      exact .raw s
    | _ => exact nomatch hx

/-- Operations that agree have the same name, and options that resemble each other. -/
theorem operation : Respects operation? Operation.Resembles := by
  intro u v hagrees o p ho hp
  obtain ⟨us, rfl, hname, hoptions⟩ := operation?_eq_some ho
  obtain ⟨vs, rfl, hname', hoptions'⟩ := operation?_eq_some hp
  exact {
    name := text.field hagrees (by decide) hname hname'
    options := options.field hagrees (by decide) hoptions hoptions' }

/-- Lists of texts that agree are the same. -/
theorem texts : Respects (items? text?) Eq := by
  intro u v hagrees xs ys hxs hys
  have hitems := text.items hagrees hxs hys
  rwa [List.forall₂_eq_eq_eq] at hitems

/-- Directions that agree are the same, be they given as directions or as texts. -/
theorem direction : Respects direction? Eq := by
  intro u v hagrees x y hx hy
  obtain ⟨s, hs, rfl⟩ := Option.map_eq_some_iff.1 hx
  obtain ⟨t, ht, rfl⟩ := Option.map_eq_some_iff.1 hy
  have hst : s = t := by
    cases hagrees with
    | same => exact Option.some.inj (hs.symm.trans ht)
    | atom h => exact Atom.characters_eq_of_equal h hs ht
    | _ => exact nomatch hs
  rw [hst]

/-- Mapped pads that agree are the same, and nothing agrees with nothing only. -/
theorem mappedPads : Respects mappedPads? Eq := by
  intro u v hagrees x y hx hy
  cases hagrees with
  | same => exact Option.some.inj (hx.symm.trans hy)
  | list h =>
    obtain ⟨xs, hxs, rfl⟩ := Option.map_eq_some_iff.1 hx
    obtain ⟨ys, hys, rfl⟩ := Option.map_eq_some_iff.1 hy
    rw [texts (.list h) hxs hys]
  | @atom a b h =>
    -- the only atom that is read at all is nothing
    have hnothing : ∀ {a : Atom} {pads : Option (List String)},
        mappedPads? (.atom a) = some pads → pads = none := by
      intro a pads hpads
      cases a with
      | none => exact (Option.some.inj hpads).symm
      | _ => exact nomatch hpads
    rw [hnothing hx, hnothing hy]
  | _ => exact nomatch hx

/-- Streams that agree are the same. -/
theorem stream : Respects stream? Eq := by
  intro u v hagrees s t hs ht
  obtain ⟨us, rfl, hpath, hname, hdirection, hmapped⟩ := stream?_eq_some hs
  obtain ⟨vs, rfl, hpath', hname', hdirection', hmapped'⟩ := stream?_eq_some ht
  rw [Stream.mk.injEq]
  exact ⟨text.field hagrees (by decide) hpath hpath', text.field hagrees (by decide) hname hname',
    direction.field hagrees (by decide) hdirection hdirection',
    mappedPads.field hagrees (by decide) hmapped hmapped'⟩

/-- Stages that agree resemble each other. -/
theorem stage : Respects stage? Stage.Resembles := by
  intro u v hagrees s t hs ht
  obtain ⟨us, rfl, hname, hinput, houtput, hoperations⟩ := stage?_eq_some hs
  obtain ⟨vs, rfl, hname', hinput', houtput', hoperations'⟩ := stage?_eq_some ht
  exact {
    name := text.field hagrees (by decide) hname hname'
    inputPads := texts.field hagrees (by decide) hinput hinput'
    outputPads := texts.field hagrees (by decide) houtput houtput'
    operations := operation.items.field hagrees (by decide) hoperations hoperations' }

/-- Equal values stand for nodes that resemble each other. -/
theorem node : Respects node? Node.Resembles := by
  intro u v hagrees n m hn hm
  have hvalue : u.scalar?.map Node.value = some n → v.scalar?.map Node.value = some m →
      n.Resembles m := by
    intro hn hm
    obtain ⟨a, -, rfl⟩ := Option.map_eq_some_iff.1 hn
    obtain ⟨b, -, rfl⟩ := Option.map_eq_some_iff.1 hm
    exact .value a b
  cases hagrees with
  | same =>
    obtain rfl := Option.some.inj (hn.symm.trans hm)
    exact .refl n
  | atom => exact hvalue hn hm
  | list => exact hvalue hn hm
  | dictionary => exact hvalue hn hm
  | record partner found agrees =>
    rename_i shape us vs
    -- records agree with records of their shape only
    cases shape with
    | stream =>
      obtain ⟨s, hs, rfl⟩ := Option.map_eq_some_iff.1 hn
      obtain ⟨t, ht, rfl⟩ := Option.map_eq_some_iff.1 hm
      obtain rfl := stream (.record partner found agrees) hs ht
      exact .stream s
    | stage =>
      obtain ⟨s, hs, rfl⟩ := Option.map_eq_some_iff.1 hn
      obtain ⟨t, ht, rfl⟩ := Option.map_eq_some_iff.1 hm
      exact .stage (stage (.record partner found agrees) hs ht)
    | operation =>
      obtain ⟨o, -, rfl⟩ := Option.map_eq_some_iff.1 hn
      obtain ⟨p, -, rfl⟩ := Option.map_eq_some_iff.1 hm
      exact .operation o p
    | _ => exact nomatch hn

end Respects

end Store.View

end FilterGraph
