import Mathlib.Data.List.Forall2

/-!
# Lists that are paired member by member

What nothing tells apart in the members of two lists, nothing tells apart in what the lists are made
into: their members changed, chosen, flattened, or tried in order. If the related members are kept
or left out together, then the ones that are kept are related again.
-/

set_option autoImplicit false

namespace FilterGraph.Paired

variable {ε α β γ : Type} {members : List α} {others : List β}

/-- Lists that are paired are empty together. -/
theorem isEmpty_eq {related : α → β → Prop} (h : List.Forall₂ related members others) :
    members.isEmpty = others.isEmpty := by
  cases h <;> rfl

/-- The members of two lists are changed to the same if they are member by member. -/
theorem map_eq_iff {f : α → γ} {g : β → γ} :
    members.map f = others.map g ↔ List.Forall₂ (fun a b => f a = g b) members others := by
  rw [← List.forall₂_eq_eq_eq, List.forall₂_map_left_iff, List.forall₂_map_right_iff]

/-- The same is chosen from two lists if it is chosen member by member. -/
theorem filterMap_eq {f : α → Option γ} {g : β → Option γ}
    (h : List.Forall₂ (fun a b => f a = g b) members others) :
    members.filterMap f = others.filterMap g := by
  have hmap := congrArg (List.filterMap id) (map_eq_iff.2 h)
  rwa [List.filterMap_map, List.filterMap_map] at hmap

/-- The lists are flattened to the same if their members give the same. -/
theorem flatMap_eq {f : α → List γ} {g : β → List γ}
    (h : List.Forall₂ (fun a b => f a = g b) members others) :
    members.flatMap f = others.flatMap g := by
  rw [List.flatMap_def, List.flatMap_def, map_eq_iff.2 h]

/-- Trying the members in order comes to the same, or fails at the same place, if each pair of
members comes to the same. -/
theorem mapM_eq {f : α → Except ε γ} {g : β → Except ε γ}
    (h : List.Forall₂ (fun a b => f a = g b) members others) : members.mapM f = others.mapM g := by
  induction h with
  | nil => rfl
  | cons hab _ ih => rw [List.mapM_cons, List.mapM_cons, hab, ih]

/-- If paired members are kept or left out together, the ones that are kept are paired. -/
theorem filter {related : α → β → Prop} {keep : α → Bool} {keepOther : β → Bool}
    (hkeep : ∀ a b, related a b → keep a = keepOther b) (h : List.Forall₂ related members others) :
    List.Forall₂ (fun a b => related a b ∧ keep a = true) (members.filter keep)
      (others.filter keepOther) := by
  induction h with
  | nil => exact .nil
  | cons hab _ ih =>
    rw [List.filter_cons, List.filter_cons, hkeep _ _ hab]
    split
    · rename_i hkept
      exact .cons ⟨hab, (hkeep _ _ hab).trans hkept⟩ ih
    · exact ih

/-- If a member is kept just when something is chosen from the other one, what is kept is paired
with what is chosen. -/
theorem filter_filterMap {related : α → β → Prop} {chosen : α → γ → Prop} {keep : α → Bool}
    {choose : β → Option γ}
    (hchoose : ∀ a b, related a b →
      (keep a = true ∧ ∃ c, choose b = some c ∧ chosen a c) ∨ keep a = false ∧ choose b = none)
    (h : List.Forall₂ related members others) :
    List.Forall₂ chosen (members.filter keep) (others.filterMap choose) := by
  induction h with
  | nil => exact .nil
  | cons hab _ ih =>
    rcases hchoose _ _ hab with ⟨hkeep, c, hc, hchosen⟩ | ⟨hkeep, hnone⟩
    · rw [List.filter_cons_of_pos hkeep, List.filterMap_cons_some hc]
      exact .cons hchosen ih
    · rw [List.filter_cons_of_neg (by rw [hkeep]; exact Bool.false_ne_true),
        List.filterMap_cons_none hnone]
      exact ih

/-- Paired members have the same numbers. -/
theorem zipIdx {related : α → β → Prop} (h : List.Forall₂ related members others) (start : Nat) :
    List.Forall₂ (fun a b => related a.1 b.1 ∧ a.2 = b.2) (members.zipIdx start)
      (others.zipIdx start) := by
  induction h generalizing start with
  | nil => exact .nil
  | cons hab _ ih => exact .cons ⟨hab, rfl⟩ (ih (start + 1))

end FilterGraph.Paired
