import FilterGraph.Proofs.Outcome
import FilterGraph.Store.Session
import Mathlib.Data.List.Infix

/-!
# How a store grows

Whatever is built in a store is put behind the cells that are there. This file says, for everything
that builds, what the new cells refer to: to each other, or to one of the values that have been
handed over and may be shared (`Origin.Builds`). Which values these are is left open, so that the
same lemmas tell that a store never refers to an address without a cell, and that a copy has nothing
in common with its original but the elements.
-/

set_option autoImplicit false

namespace FilterGraph.Store

/-! ### Cells that stay in place -/

namespace Cells

variable {cells after : Cells}

/-- A value refers to a cell that is there, if it refers to any. -/
def Within (cells : Cells) : Value → Prop
  | .atom _ => True
  | .ref address => address < cells.length

/-- What refers to a cell is what is in the cell. -/
theorem content_of_read? {address : Nat} {cell : Cell} (h : cells.read? address = some cell) :
    cells.content (.ref address) = cell := by
  simp [content, h]

/-- What has parts is a cell that is there. -/
theorem read?_of_mem_parts {v w : Value} (h : w ∈ (cells.content v).parts) :
    ∃ start, v = .ref start ∧ cells.read? start = some (cells.content v) := by
  cases v with
  | atom a => exact absurd h List.not_mem_nil
  | ref start =>
    cases hread : cells.read? start with
    | none =>
      have hcontent : cells.content (.ref start) = .atom .none := by simp [content, hread]
      rw [hcontent] at h
      exact absurd h List.not_mem_nil
    | some cell =>
      rw [content_of_read? hread]
      exact ⟨start, rfl, hread⟩

/-- New cells at the end leave the first ones as they are. -/
theorem read?_of_extended (h : cells <+: after) {address : Nat}
    (haddress : address < cells.length) : after.read? address = cells.read? address := by
  obtain ⟨added, rfl⟩ := h
  exact List.getElem?_append_left haddress

/-- New cells do not change what a value is or refers to. -/
theorem content_of_extended (h : cells <+: after) {value : Value} (hvalue : cells.Within value) :
    after.content value = cells.content value := by
  cases value with
  | atom a => rfl
  | ref address =>
    show (after.read? address).getD _ = (cells.read? address).getD _
    rw [read?_of_extended h hvalue]

/-- A value stays in the store when cells are added. -/
theorem Within.of_extended (h : cells <+: after) {value : Value} (hvalue : cells.Within value) :
    after.Within value := by
  cases value with
  | atom a => trivial
  | ref address => exact Nat.lt_of_lt_of_le hvalue h.length_le

/-- What a copy of a value has in common with it: the elements of a list or the values of a
dictionary. What is neither is not copied and taken as it is. -/
def lent (cells : Cells) (value : Value) : List Value :=
  match cells.content value with
  | .list items => items
  | .dictionary entries => entries.map Prod.snd
  | _ => [value]

/-- New cells do not change what a value lends. -/
theorem lent_of_extended (h : cells <+: after) {value : Value} (hvalue : cells.Within value) :
    after.lent value = cells.lent value := by
  unfold lent
  rw [content_of_extended h hvalue]

/-- What refers to a new cell is what the cell was allocated for. -/
theorem content_alloc (cells : Cells) (cell : Cell) :
    (cells.alloc cell).2.content (cells.alloc cell).1 = cell := by
  show ((cells.alloc cell).2.read? cells.length).getD _ = cell
  rw [read?_alloc]
  rfl

end Cells

/-- The parts of a new object are among the values that it is made of. -/
theorem Cell.mem_of_mem_parts_object {shape : Shape} {values : List Value} {v : Value}
    (h : v ∈ (Cell.object shape values).parts) : v ∈ values := by
  obtain ⟨e, he, rfl⟩ := List.mem_map.1 h
  exact (List.of_mem_zip (show (e.1, e.2) ∈ _ from he)).2

/-! ### What is built behind the first cells -/

/-- The cells from which a store grows, and the values that may be shared. -/
structure Origin where
  cells : Cells
  shared : Value → Prop

namespace Origin

/-- The value may be part of what is built: it is an atom, it is shared, or it has been built. -/
inductive Allows (o : Origin) (cells : Cells) : Value → Prop where
  | atom (a : Atom) : Allows o cells (.atom a)
  | shared {value : Value} (h : o.shared value) : Allows o cells value
  | built {address : Nat} (h : o.cells.length ≤ address) (hlt : address < cells.length) :
      Allows o cells (.ref address)

/-- The cells are the first ones and new ones with allowed parts. -/
structure Grown (o : Origin) (cells : Cells) : Prop where
  extended : o.cells <+: cells
  parts : ∀ {address : Nat} {cell : Cell}, o.cells.length ≤ address →
    cells.read? address = some cell → ∀ v ∈ cell.parts, o.Allows cells v

/-- Allowed values are built, with new cells. -/
structure Builds (o : Origin) (cells : Cells) (values : List Value) (after : Cells) : Prop where
  extended : cells <+: after
  grown : o.Grown after
  allowed : ∀ v ∈ values, o.Allows after v

variable {o : Origin} {cells middle after : Cells} {values others : List Value} {v : Value}

/-- What may be part of what is built may be so after more has been built. -/
theorem Allows.of_extended (h : cells <+: after) (hv : o.Allows cells v) : o.Allows after v := by
  cases hv with
  | atom a => exact .atom a
  | shared h => exact .shared h
  | built hle hlt => exact .built hle (Nat.lt_of_lt_of_le hlt h.length_le)

/-- The first cells are there from the start, with no new ones. -/
theorem Grown.first (o : Origin) : o.Grown o.cells where
  extended := List.prefix_refl _
  parts := by
    intro address cell hle hread
    have hlt : address < o.cells.length := (List.getElem?_eq_some_iff.1 hread).1
    omega

namespace Builds

/-- To build no values takes no new cells. -/
theorem nothing (h : o.Grown cells) : o.Builds cells [] cells where
  extended := List.prefix_refl _
  grown := h
  allowed := fun _ hv => nomatch hv

/-- A value that is allowed is taken as it is. -/
theorem taken (h : o.Grown cells) (hv : o.Allows cells v) : o.Builds cells [v] cells where
  extended := List.prefix_refl _
  grown := h
  allowed := fun _ hw => List.mem_singleton.1 hw ▸ hv

/-- What is built after some new cells is built from the cells before them. -/
theorem of_extended (h : cells <+: middle) (hbuilt : o.Builds middle values after) :
    o.Builds cells values after :=
  { hbuilt with extended := h.trans hbuilt.extended }

/-- What is built first and what is built after it are built together. -/
theorem andThen (h : o.Builds cells values middle) (hnext : o.Builds middle others after) :
    o.Builds cells (values ++ others) after where
  extended := h.extended.trans hnext.extended
  grown := hnext.grown
  allowed := by
    intro v hv
    rcases List.mem_append.1 hv with hv | hv
    · exact (h.allowed v hv).of_extended hnext.extended
    · exact hnext.allowed v hv

/-- A cell is added for a thing that is made of allowed values. -/
theorem alloc (h : o.Builds cells values after) (cell : Cell)
    (hparts : ∀ v ∈ cell.parts, o.Allows after v) :
    o.Builds cells [(after.alloc cell).1] (after.alloc cell).2 where
  extended := h.extended.trans (List.prefix_append _ _)
  grown := {
    extended := h.grown.extended.trans (List.prefix_append _ _)
    parts := by
      intro address other hle hread v hv
      have hextended : after <+: (after.alloc cell).2 := List.prefix_append _ _
      -- the cell is one of those that were there, or else it is the new one
      by_cases hlt : address < after.length
      · rw [Cells.read?_of_extended hextended hlt] at hread
        exact (h.grown.parts hle hread v hv).of_extended hextended
      · have hlast : address < (after ++ [cell]).length := (List.getElem?_eq_some_iff.1 hread).1
        obtain rfl : address = after.length := by
          rw [List.length_append, List.length_singleton] at hlast
          omega
        rw [Cells.read?_alloc] at hread
        obtain rfl := Option.some.inj hread
        exact (hparts v hv).of_extended hextended }
  allowed := by
    intro v hv
    rw [List.mem_singleton] at hv
    subst hv
    refine .built h.grown.extended.length_le ?_
    show after.length < (after ++ [cell]).length
    rw [List.length_append, List.length_singleton]
    exact Nat.lt_succ_self _

/-- An object is made of values that have been built and of other allowed ones. -/
theorem object (h : o.Builds cells values after) (shape : Shape) (others : List Value)
    (hothers : ∀ v ∈ others, o.Allows after v) :
    o.Builds cells [(after.alloc (.object shape (values ++ others))).1]
      (after.alloc (.object shape (values ++ others))).2 := by
  refine h.alloc _ fun v hv => ?_
  rcases List.mem_append.1 (Cell.mem_of_mem_parts_object hv) with hv | hv
  · exact h.allowed v hv
  · exact hothers v hv

end Builds

/-! ### Atoms, texts and scalars -/

namespace Grown

/-- An atom is built, with a cell of its own or without one. -/
theorem buildAtom (h : o.Grown cells) (a : Atom) :
    o.Builds cells [(cells.buildAtom a).1] (cells.buildAtom a).2 := by
  unfold Cells.buildAtom
  split
  · exact .taken h (.atom a)
  · exact (Builds.nothing h).alloc _ fun v hv => nomatch hv

/-- A text is built as an atom is. -/
theorem buildText (h : o.Grown cells) (s : String) :
    o.Builds cells [(cells.buildText s).1] (cells.buildText s).2 := h.buildAtom (.text s)

/-- Texts are built one after the other. -/
theorem buildTexts (h : o.Grown cells) (texts : List String) :
    o.Builds cells (cells.buildTexts texts).1 (cells.buildTexts texts).2 := by
  induction texts generalizing cells with
  | nil => exact .nothing h
  | cons s rest ih =>
    have hfirst := h.buildText s
    exact hfirst.andThen (ih hfirst.grown)

mutual
/-- A scalar is built with all its parts. -/
theorem build : ∀ (scalar : Scalar) {cells : Cells}, o.Grown cells →
    o.Builds cells [(cells.build scalar).1] (cells.build scalar).2
  | .none, _, h => h.buildAtom .none
  | .bool b, _, h => h.buildAtom (.bool b)
  | .int n, _, h => h.buildAtom (.int n)
  | .float x, _, h => h.buildAtom (.float x)
  | .text s, _, h => h.buildAtom (.text s)
  | .list items, _, h =>
    have hitems := buildItems items h
    hitems.alloc _ hitems.allowed
  | .dictionary entries, _, h =>
    have hentries := buildEntries entries h
    hentries.alloc _ hentries.allowed

/-- The items of a list are built one after the other. -/
theorem buildItems : ∀ (items : List Scalar) {cells : Cells}, o.Grown cells →
    o.Builds cells (cells.buildItems items).1 (cells.buildItems items).2
  | [], _, h => .nothing h
  | item :: rest, _, h =>
    have hfirst := build item h
    hfirst.andThen (buildItems rest hfirst.grown)

/-- The values of a dictionary are built one after the other. -/
theorem buildEntries : ∀ (entries : List (String × Scalar)) {cells : Cells}, o.Grown cells →
    o.Builds cells ((cells.buildEntries entries).1.map Prod.snd) (cells.buildEntries entries).2
  | [], _, h => .nothing h
  | (_, item) :: rest, _, h =>
    have hfirst := build item h
    hfirst.andThen (buildEntries rest hfirst.grown)
end

/-! ### Options, operations, streams, stages and reports -/

/-- Options without values are built of nothing. -/
theorem newOptions (h : o.Grown cells) :
    o.Builds cells [cells.newOptions.1] cells.newOptions.2 := by
  have hvalues := (Builds.nothing h).alloc (.dictionary []) fun v hv => nomatch hv
  exact hvalues.object .keyed [] fun v hv => nomatch hv

/-- An operation is built of its name and of options that are allowed. -/
theorem newOperation (h : o.Grown cells) (name : String) {options : Value}
    (hoptions : o.Allows cells options) :
    o.Builds cells [(cells.newOperation name options).1] (cells.newOperation name options).2 := by
  have hname := h.buildText name
  refine hname.object .operation [options] fun v hv => ?_
  rw [List.mem_singleton.1 hv]
  exact hoptions.of_extended hname.extended

/-- A stream is built of its texts and of pads that are allowed. -/
theorem newStream (h : o.Grown cells) (path name : String) (direction : Atom) {pads : Value}
    (hpads : o.Allows cells pads) :
    o.Builds cells [(cells.newStream path name direction pads).1]
      (cells.newStream path name direction pads).2 := by
  have hpath := h.buildText path
  have hname := hpath.grown.buildText name
  have hdirection := hname.grown.buildAtom direction
  have hfields := (hpath.andThen hname).andThen hdirection
  refine hfields.object .stream [pads] fun v hv => ?_
  rw [List.mem_singleton.1 hv]
  exact hpads.of_extended hfields.extended

/-- A stage is built of its name and of lists that are allowed. -/
theorem newStage (h : o.Grown cells) (name : String) {inputPads outputPads operations : Value}
    (hlists : ∀ v ∈ [inputPads, outputPads, operations], o.Allows cells v) :
    o.Builds cells [(cells.newStage name inputPads outputPads operations).1]
      (cells.newStage name inputPads outputPads operations).2 := by
  have hname := h.buildText name
  exact hname.object .stage [inputPads, outputPads, operations] fun v hv =>
    (hlists v hv).of_extended hname.extended

/-- A list of new texts is built of nothing. -/
theorem newTexts (h : o.Grown cells) (texts : List String) :
    o.Builds cells [(cells.newTexts texts).1] (cells.newTexts texts).2 := by
  have htexts := h.buildTexts texts
  exact htexts.alloc (.list _) htexts.allowed

/-- A report is built of nothing but its messages. -/
theorem newReport (h : o.Grown cells) (report : Report) :
    o.Builds cells [(cells.newReport report).1] (cells.newReport report).2 := by
  have hvalid := Builds.taken h (.atom (.bool report.valid))
  have herrors := h.newTexts report.errors
  have hwarnings := herrors.grown.newTexts report.warnings
  exact ((hvalid.andThen herrors).andThen hwarnings).object .report [] fun v hv => nomatch hv

/-! ### Copies -/

/-- The elements of a value are what it lends or new texts, so they are built if what it lends is
allowed. -/
theorem elements (h : o.Grown cells) {value : Value}
    (hlent : ∀ v ∈ cells.lent value, o.Allows cells v)
    {items : List Value} (hitems : cells.elements value = .ok (items, after)) :
    o.Builds cells items after := by
  unfold Cells.elements at hitems
  unfold Cells.lent at hlent
  split at hitems
  case h_1 elements hcontent =>
    rw [hcontent] at hlent
    obtain ⟨rfl, rfl⟩ := Prod.mk.inj (Except.ok.inj hitems)
    exact { extended := List.prefix_refl _, grown := h, allowed := hlent }
  case h_2 entries hcontent =>
    obtain ⟨rfl, rfl⟩ := Prod.mk.inj (Except.ok.inj hitems)
    exact h.buildTexts _
  case h_3 a hcontent =>
    split at hitems
    · obtain ⟨rfl, rfl⟩ := Prod.mk.inj (Except.ok.inj hitems)
      exact h.buildTexts _
    · exact nomatch hitems
  case h_4 => exact nomatch hitems

/-- A copy is a new list. -/
theorem alloc_elements (h : o.Grown cells) {value : Value}
    (hlent : ∀ v ∈ cells.lent value, o.Allows cells v) {made : Value × Cells}
    (hmade : (cells.elements value).map (fun (items, cells) => cells.alloc (.list items)) =
      .ok made) :
    o.Builds cells [made.1] made.2 := by
  obtain ⟨⟨items, middle⟩, hitems, rfl⟩ := Outcome.map_eq_ok_iff.1 hmade
  have hbuilt := h.elements hlent hitems
  exact hbuilt.alloc (.list items) hbuilt.allowed

/-- A copied list is built of what the list lends. -/
theorem copyList (h : o.Grown cells) {value : Value}
    (hlent : ∀ v ∈ cells.lent value, o.Allows cells v) {made : Value × Cells}
    (hmade : cells.copyList value = .ok made) : o.Builds cells [made.1] made.2 := by
  unfold Cells.copyList at hmade
  split at hmade
  · rw [← Except.ok.inj hmade]
    exact (Builds.nothing h).alloc (.list []) fun v hv => nomatch hv
  · exact h.alloc_elements hlent hmade

/-- A copied list is built of what the list lends, and nothing is taken as it is. -/
theorem copyListOrNone (h : o.Grown cells) {value : Value}
    (hlent : ∀ v ∈ cells.lent value, o.Allows cells v) {made : Value × Cells}
    (hmade : cells.copyListOrNone value = .ok made) : o.Builds cells [made.1] made.2 := by
  unfold Cells.copyListOrNone at hmade
  split at hmade
  · exact Except.ok.inj hmade ▸ .taken h (.atom .none)
  · exact h.alloc_elements hlent hmade

/-- Options are built of what the given value lends: a payload is taken as it is, and the values of
a dictionary are copied into a new one. -/
theorem makeOptions (h : o.Grown cells) {value : Value}
    (hlent : ∀ v ∈ cells.lent value, o.Allows cells v) {made : Value × Cells}
    (hmade : cells.makeOptions value = .ok made) : o.Builds cells [made.1] made.2 := by
  unfold Cells.makeOptions at hmade
  unfold Cells.lent at hlent
  split at hmade
  case h_1 => exact Except.ok.inj hmade ▸ h.newOptions
  case h_2 hcontent =>
    rw [hcontent] at hlent
    exact Except.ok.inj hmade ▸ .taken h (hlent value List.mem_cons_self)
  case h_3 hcontent =>
    rw [hcontent] at hlent
    exact Except.ok.inj hmade ▸ .taken h (hlent value List.mem_cons_self)
  case h_4 entries hcontent =>
    rw [hcontent] at hlent
    have hvalues := (Builds.nothing h).alloc (.dictionary entries) hlent
    exact Except.ok.inj hmade ▸ hvalues.object .keyed [] fun v hv => nomatch hv
  case h_5 a _ hcontent =>
    rw [hcontent] at hlent
    split at hmade
    · exact Except.ok.inj hmade ▸ (Builds.nothing h).object .raw [value] hlent
    · exact nomatch hmade
  case h_6 => exact nomatch hmade

/-! ### The constructors -/

/-- An operation is built of what the given options lend. -/
theorem makeOperation (h : o.Grown cells) (name : String) {options : Value}
    (hlent : ∀ v ∈ cells.lent options, o.Allows cells v) {made : Value × Cells}
    (hmade : cells.makeOperation name options = .ok made) : o.Builds cells [made.1] made.2 := by
  obtain ⟨⟨payload, middle⟩, hpayload, hoperation⟩ := Outcome.bind_eq_ok_iff.1 hmade
  have hbuilt := h.makeOptions hlent hpayload
  have hnew := hbuilt.grown.newOperation name (hbuilt.allowed payload List.mem_cons_self)
  exact Except.ok.inj hoperation ▸ .of_extended hbuilt.extended hnew

/-- An output is built of what the given pads lend. -/
theorem makeOutput (h : o.Grown cells) (path name : String) {pads : Value}
    (hlent : ∀ v ∈ cells.lent pads, o.Allows cells v) {made : Value × Cells}
    (hmade : cells.makeOutput path name pads = .ok made) : o.Builds cells [made.1] made.2 := by
  obtain ⟨⟨copy, middle⟩, hcopy, hstream⟩ := Outcome.bind_eq_ok_iff.1 hmade
  have hbuilt := h.copyListOrNone hlent hcopy
  have hnew := hbuilt.grown.newStream path name (.direction .output)
    (hbuilt.allowed copy List.mem_cons_self)
  exact Except.ok.inj hstream ▸ .of_extended hbuilt.extended hnew

end Grown

/-- The value may be copied or taken as it is: what it lends is allowed. -/
structure Offers (o : Origin) (cells : Cells) (value : Value) : Prop where
  within : cells.Within value
  lent : ∀ v ∈ cells.lent value, o.Allows cells v

/-- What is on offer stays on offer after more has been built. -/
theorem Offers.of_extended (h : cells <+: after) (hvalue : o.Offers cells v) :
    o.Offers after v where
  within := hvalue.within.of_extended h
  lent := by
    rw [Cells.lent_of_extended h hvalue.within]
    exact fun w hw => (hvalue.lent w hw).of_extended h

/-- A stage is built of what the given pads and operations lend, which are copied one after the
other. -/
theorem Grown.makeStage (h : o.Grown cells) (name : String)
    {inputPads outputPads operations : Value} (hinput : o.Offers cells inputPads)
    (houtput : o.Offers cells outputPads) (hoperations : o.Offers cells operations)
    {made : Value × Cells}
    (hmade : cells.makeStage name inputPads outputPads operations = .ok made) :
    o.Builds cells [made.1] made.2 := by
  obtain ⟨⟨input, first⟩, hfirst, hmade⟩ := Outcome.bind_eq_ok_iff.1 hmade
  obtain ⟨⟨output, second⟩, hsecond, hmade⟩ := Outcome.bind_eq_ok_iff.1 hmade
  obtain ⟨⟨chain, third⟩, hthird, hmade⟩ := Outcome.bind_eq_ok_iff.1 hmade
  have hinput := h.copyList hinput.lent hfirst
  have houtput := hinput.grown.copyList (houtput.of_extended hinput.extended).lent hsecond
  have hcopies := hinput.andThen houtput
  have hchain := hcopies.grown.copyList (hoperations.of_extended hcopies.extended).lent hthird
  have hcopies := hcopies.andThen hchain
  have hnew := hcopies.grown.newStage name hcopies.allowed
  exact Except.ok.inj hmade ▸ .of_extended hcopies.extended hnew

end Origin

end FilterGraph.Store
