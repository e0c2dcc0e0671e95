import Mathlib.Data.List.Forall2

/-!
# Outcomes

An outcome is a value or a failure. These lemmas say when an outcome that was put together from
others succeeds, and with what: an outcome with its value changed, one outcome after another, and
the outcomes for the members of a list in order. A failure of such an outcome is the first one of
those that it was put together from (`failure?_mapM`).
-/

set_option autoImplicit false

namespace FilterGraph.Outcome

variable {ε α β γ : Type}

/-- A changed outcome is a value if the outcome is one and is changed to it. -/
theorem map_eq_ok_iff {outcome : Except ε α} {f : α → β} {b : β} :
    outcome.map f = .ok b ↔ ∃ a, outcome = .ok a ∧ f a = b := by
  cases outcome <;> simp [Except.map]

/-- Two steps come to a value if the first one comes to one from which the second one comes to
it. -/
theorem bind_eq_ok_iff {outcome : Except ε α} {next : α → Except ε β} {b : β} :
    (outcome >>= next) = .ok b ↔ ∃ a, outcome = .ok a ∧ next a = .ok b := by
  cases outcome <;> simp [Bind.bind, Except.bind]

/-- The members of a list succeed together exactly when each of them does, and the values then come
in the order of the members. -/
theorem mapM_eq_ok_iff {f : α → Except ε β} {members : List α} {values : List β} :
    members.mapM f = .ok values ↔ List.Forall₂ (fun a b => f a = .ok b) members values := by
  induction members generalizing values with
  | nil =>
    cases values with
    | nil => simp [pure, Except.pure]
    | cons b values => simp [pure, Except.pure]
  | cons a members ih =>
    rw [List.mapM_cons, bind_eq_ok_iff]
    constructor
    · rintro ⟨b, hb, hrest⟩
      obtain ⟨rest, htail, hvalues⟩ := bind_eq_ok_iff.1 hrest
      obtain rfl : b :: rest = values := Except.ok.inj hvalues
      exact .cons hb (ih.1 htail)
    · rintro (_ | ⟨hb, htail⟩)
      exact ⟨_, hb, bind_eq_ok_iff.2 ⟨_, ih.2 htail, rfl⟩⟩

/-- Changing the value of an outcome changes no failure. -/
theorem map_eq_error_iff {outcome : Except ε α} {f : α → β} {failure : ε} :
    outcome.map f = .error failure ↔ outcome = .error failure := by
  cases outcome <;> simp [Except.map]

/-- Whether an outcome succeeds does not depend on what its value is changed to. -/
theorem exists_map_eq_ok_iff {outcome : Except ε α} {f : α → β} :
    (∃ b, outcome.map f = .ok b) ↔ ∃ a, outcome = .ok a := by
  cases outcome <;> simp [Except.map]

/-- An outcome is a failure if it is no value. -/
theorem exists_eq_error_iff {outcome : Except ε α} :
    (∃ failure, outcome = .error failure) ↔ ¬ ∃ a, outcome = .ok a := by
  cases outcome <;> simp

/-- The members of a list succeed together with some values exactly when each of them succeeds. -/
theorem exists_mapM_eq_ok_iff {f : α → Except ε β} {members : List α} :
    (∃ values, members.mapM f = .ok values) ↔ ∀ a ∈ members, ∃ b, f a = .ok b := by
  simp only [mapM_eq_ok_iff]
  induction members with
  | nil => simp
  | cons a members ih => simp [List.forall₂_cons_left_iff, ← ih]

/-- The failure of an outcome that is one. -/
def failure? : Except ε α → Option ε
  | .ok _ => none
  | .error failure => some failure

/-- The failure of an outcome is the one that the outcome is. -/
theorem failure?_eq_some_iff {outcome : Except ε α} {failure : ε} :
    failure? outcome = some failure ↔ outcome = .error failure := by
  cases outcome <;> simp [failure?]

/-- Changing the value of an outcome does not change its failure. -/
theorem failure?_map (outcome : Except ε α) (f : α → β) :
    failure? (outcome.map f) = failure? outcome := by
  cases outcome <;> rfl

/-- If two outcomes are needed, the value that is made of them does not matter for the failure. -/
theorem failure?_bind_map (first : Except ε α) (second : Except ε β) (f : α → β → γ) :
    failure? (first >>= fun a => second >>= fun b => pure (f a b)) =
      (failure? first).or (failure? second) := by
  cases first <;> cases second <;> rfl

/-- The members of a list fail together with the failure of the first of them that fails. -/
theorem failure?_mapM (f : α → Except ε β) (members : List α) :
    failure? (members.mapM f) = members.findSome? fun a => failure? (f a) := by
  induction members with
  | nil => rfl
  | cons a members ih =>
    rw [List.mapM_cons, List.findSome?_cons, ← ih]
    cases f a with
    | error failure => rfl
    | ok b => cases members.mapM f <;> rfl

/-- If a list cannot be gone through, one of its members fails, and with that failure. -/
theorem exists_of_mapM_eq_error {f : α → Except ε β} {members : List α} {failure : ε}
    (h : members.mapM f = .error failure) : ∃ a ∈ members, f a = .error failure := by
  rw [← failure?_eq_some_iff, failure?_mapM] at h
  obtain ⟨a, ha, hfailure⟩ := List.exists_of_findSome?_eq_some h
  exact ⟨a, ha, failure?_eq_some_iff.1 hfailure⟩

/-- Each of the values that a list comes to is the value of one of its members. -/
theorem exists_of_mem_mapM {f : α → Except ε β} {members : List α} {values : List β}
    (h : members.mapM f = .ok values) {b : β} (hb : b ∈ values) : ∃ a ∈ members, f a = .ok b := by
  rw [mapM_eq_ok_iff] at h
  induction h with
  | nil => exact absurd hb List.not_mem_nil
  | cons ha _ ih =>
    rcases List.mem_cons.1 hb with rfl | hb
    · exact ⟨_, List.mem_cons_self, ha⟩
    · obtain ⟨a, hmem, ha⟩ := ih hb
      exact ⟨a, List.mem_cons_of_mem _ hmem, ha⟩

/-- If each member succeeds under a condition and then has a known value, the members of a list
succeed together exactly when all of them meet the condition, with their known values. -/
theorem mapM_eq_ok_map_iff {f : α → Except ε β} {condition : α → Prop} {value : α → β}
    (h : ∀ a b, f a = .ok b ↔ condition a ∧ value a = b) {members : List α} {values : List β} :
    members.mapM f = .ok values ↔ (∀ a ∈ members, condition a) ∧ members.map value = values := by
  have hvalues : List.Forall₂ (fun a b => value a = b) members values ↔
      members.map value = values := by
    rw [← List.forall₂_map_left_iff, List.forall₂_eq_eq_eq]
  simp only [mapM_eq_ok_iff, h, List.forall₂_and_left, hvalues]

/-- Changing each value of a list by the member that it belongs to keeps the members together. -/
theorem mapM_map_eq_ok (change : α → β → γ) {f : α → Except ε β} {members : List α}
    {values : List β} (h : members.mapM f = .ok values) :
    members.mapM (fun a => (f a).map (change a)) = .ok (List.zipWith change members values) := by
  rw [mapM_eq_ok_iff] at h ⊢
  induction h with
  | nil => exact .nil
  | cons ha _ ih => exact .cons (map_eq_ok_iff.2 ⟨_, ha, rfl⟩) ih

/-- Doing something with all members and then something that cannot fail with all values is doing
both with one member after the other. -/
theorem mapM_bind_mapM {δ : Type} {f : α → Except ε β} {g : β → Except ε γ} {h : δ → Except ε γ}
    {members : List α} {others : List δ}
    (hrelated : List.Forall₂ (fun a d => (f a >>= g) = h d) members others)
    (hsucceeds : ∀ a ∈ members, ∀ b, f a = .ok b → ∃ c, g b = .ok c) :
    (members.mapM f >>= fun values => values.mapM g) = others.mapM h := by
  induction hrelated with
  | nil => rfl
  | cons had _ ih =>
    rename_i a d members others _
    have hrest := ih fun b hb => hsucceeds b (List.mem_cons_of_mem _ hb)
    rw [List.mapM_cons, List.mapM_cons, ← had, ← hrest]
    -- on the left all members are tried before the second pass, which does not fail when they succeed
    cases ha : f a with
    | error failure => rfl
    | ok b =>
      obtain ⟨c, hc⟩ := hsucceeds a List.mem_cons_self b ha
      cases hvalues : members.mapM f with
      | error failure =>
        show Except.error failure = (g b >>= fun _ => Except.error failure)
        rw [hc]
        rfl
      | ok values =>
        show (b :: values).mapM g =
          (g b >>= fun first => values.mapM g >>= fun rest => pure (first :: rest))
        rw [List.mapM_cons]

/-- Two lists with the same values agree in whatever the value of a member determines. -/
theorem map_eq_map_of_mapM_eq {f : α → Except ε β} {feature : α → γ} {members others : List α}
    {values : List β}
    (hfeature : ∀ a ∈ members, ∀ b ∈ others, ∀ value,
      f a = .ok value → f b = .ok value → feature a = feature b)
    (hmembers : members.mapM f = .ok values) (hothers : others.mapM f = .ok values) :
    members.map feature = others.map feature := by
  rw [mapM_eq_ok_iff] at hmembers hothers
  induction hmembers generalizing others with
  | nil =>
    cases hothers
    rfl
  | cons ha _ ih =>
    cases hothers with
    | cons hb hrest =>
      have hhead := hfeature _ List.mem_cons_self _ List.mem_cons_self _ ha hb
      have htail := ih (fun a hamem b hbmem => hfeature a (List.mem_cons_of_mem _ hamem) b
        (List.mem_cons_of_mem _ hbmem)) hrest
      rw [List.map_cons, List.map_cons, hhead, htail]

end FilterGraph.Outcome
