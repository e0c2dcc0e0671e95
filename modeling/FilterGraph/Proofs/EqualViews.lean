import FilterGraph.Store.Equality
import FilterGraph.Store.View
import Mathlib.Data.List.Forall2

/-!
# What equality says of what is seen

Equality of two values goes through the store in the way in which a view of them does, and so it
says something about the two views (`Cells.agrees_view`). They have the same shape: atoms are equal
atoms, lists agree item by item, and objects agree in the fields of their shape. Of two dictionaries
it says nothing that could be relied on when they are written, as it looks up their entries in any
order, so they are left open here.
-/

set_option autoImplicit false

namespace FilterGraph

namespace Store

/-- What equality says of two views: they are the same, or they have the same shape and agree in
their parts. The entries of dictionaries are left open. -/
inductive View.Agrees : View → View → Prop where
  | same (v : View) : Agrees v v
  | atom {x y : Atom} (h : x.equal y = true) : Agrees (.atom x) (.atom y)
  | list {xs ys : List View} (h : List.Forall₂ Agrees xs ys) : Agrees (.list xs) (.list ys)
  | dictionary (xs ys : List (String × View)) : Agrees (.dictionary xs) (.dictionary ys)
  | record {shape : Shape} {xs ys : List (String × View)} (partner : String → View)
      (found : ∀ name ∈ shape.fieldNames, ∀ value, Entries.find? name xs = some value →
        Entries.find? name ys = some (partner name))
      (agrees : ∀ name ∈ shape.fieldNames, ∀ value, Entries.find? name xs = some value →
        Agrees value (partner name)) : Agrees (.record shape xs) (.record shape ys)

namespace View.Agrees

/-- Objects that agree have agreeing fields. -/
theorem field {shape : Shape} {xs : List (String × View)} {v : View}
    (h : Agrees (.record shape xs) v) :
    ∃ ys, v = .record shape ys ∧ ∀ name ∈ shape.fieldNames, ∀ value,
      Entries.find? name xs = some value →
        ∃ other, Entries.find? name ys = some other ∧ value.Agrees other := by
  cases h with
  | same => exact ⟨xs, rfl, fun name _ value hvalue => ⟨value, hvalue, .same value⟩⟩
  | record partner found agrees =>
    exact ⟨_, rfl, fun name hname value hvalue =>
      ⟨partner name, found name hname value hvalue, agrees name hname value hvalue⟩⟩

end View.Agrees

/-- Lists that are equal by a test have items that pass it one by one. -/
theorem forall₂_of_allEqual {equal : Value → Value → Bool} {xs ys : List Value}
    (h : allEqual equal xs ys = true) : List.Forall₂ (fun x y => equal x y = true) xs ys := by
  unfold allEqual at h
  rw [Bool.and_eq_true, beq_iff_eq] at h
  obtain ⟨hlength, hall⟩ := h
  rw [List.forall₂_iff_zip]
  exact ⟨hlength, fun hmem => List.all_eq_true.1 hall _ hmem⟩

/-- Objects whose fields are equal by a test have values under each name that pass it. -/
theorem exists_find?_of_fieldsEqual {equal : Value → Value → Bool} {names : List String}
    {xs ys : Entries Value} (h : fieldsEqual equal names xs ys = true) {name : String}
    (hname : name ∈ names) {value : Value} (hvalue : xs.find? name = some value) :
    ∃ other, ys.find? name = some other ∧ equal value other = true := by
  unfold fieldsEqual entriesEqual at h
  rw [Bool.and_eq_true] at h
  have hmem : (name, value) ∈ xs.filter (·.1 ∈ names) :=
    List.mem_filter.2 ⟨Entries.mem_of_find?_eq_some hvalue, by simpa using hname⟩
  have hfound := List.all_eq_true.1 h.2 _ hmem
  dsimp only at hfound
  rw [Entries.find?_filter hname, Option.any_eq_true] at hfound
  exact hfound

/-- Values that are one and the same or equal down to some depth have agreeing views to that
depth. -/
theorem Cells.agrees_viewTo (cells : Cells) (depth : Nat) (a b : Value)
    (h : (a == b || cells.equalTo depth a b) = true) :
    (cells.viewTo depth a).Agrees (cells.viewTo depth b) := by
  induction depth generalizing a b with
  | zero =>
    obtain rfl : a = b := by simpa [equalTo] using h
    exact .same _
  | succ depth ih =>
    rw [Bool.or_eq_true, beq_iff_eq] at h
    rcases h with rfl | h
    · exact .same _
    -- both recursions go by what the two values are or refer to
    unfold equalTo at h
    unfold viewTo
    cases ha : cells.content a <;> cases hb : cells.content b <;> simp only [ha, hb] at h ⊢
    all_goals try exact absurd h Bool.false_ne_true
    case atom.atom x y => exact .atom h
    case list.list xs ys =>
      refine .list ?_
      rw [List.forall₂_map_left_iff, List.forall₂_map_right_iff]
      exact (forall₂_of_allEqual h).imp fun x y hxy => ih x y hxy
    case dictionary.dictionary xs ys => exact .dictionary _ _
    case record.record shape xs other ys =>
      rw [Bool.and_eq_true, beq_iff_eq] at h
      obtain ⟨rfl, hfields⟩ := h
      have hfield : ∀ name ∈ shape.fieldNames, ∀ value,
          Entries.find? name (xs.map fun e => (e.1, cells.viewTo depth e.2)) = some value →
          ∃ other, Entries.find? name (ys.map fun e => (e.1, cells.viewTo depth e.2)) =
            some other ∧ value.Agrees other := by
        intro name hname value hvalue
        rw [Entries.find?_map, Option.map_eq_some_iff] at hvalue
        obtain ⟨x, hx, rfl⟩ := hvalue
        obtain ⟨y, hy, hxy⟩ := exists_find?_of_fieldsEqual hfields hname hx
        exact ⟨_, by rw [Entries.find?_map, hy]; rfl, ih x y hxy⟩
      refine .record (fun name => (Entries.find? name
        (ys.map fun e => (e.1, cells.viewTo depth e.2))).getD (.atom .none)) ?_ ?_
      · intro name hname value hvalue
        obtain ⟨y, hy, -⟩ := hfield name hname value hvalue
        rw [hy]
        rfl
      · intro name hname value hvalue
        obtain ⟨y, hy, hagrees⟩ := hfield name hname value hvalue
        rw [hy]
        exact hagrees

/-- Equal values have agreeing views. -/
theorem Cells.agrees_view {cells : Cells} {a b : Value} (h : cells.equal a b = true) :
    (cells.view a).Agrees (cells.view b) := by
  refine cells.agrees_viewTo (cells.length + 1) a b ?_
  rw [Bool.or_eq_true]
  exact .inr h

end Store

end FilterGraph
