import FilterGraph.Log.Entry

/-!
# Actions that log

A logged action is its outcome together with the entries that it asks to be logged, oldest first. A
failing action keeps the entries from before its failure.
-/

set_option autoImplicit false

namespace FilterGraph.Log

/-- The outcome of an action and the entries it asks to be logged. -/
structure Logged (α : Type) where
  entries : List Entry
  outcome : Except Failure α

namespace Logged

variable {α β : Type}

/-- Do nothing but give a value. -/
protected def pure (a : α) : Logged α := ⟨[], .ok a⟩

/-- Do one action after another, unless the first one fails. -/
protected def bind (action : Logged α) (next : α → Logged β) : Logged β :=
  match action.outcome with
  | .ok a => ⟨action.entries ++ (next a).entries, (next a).outcome⟩
  | .error failure => ⟨action.entries, .error failure⟩

/-- Logged actions are done one after the other, until one of them fails. -/
instance : Monad Logged where
  pure := Logged.pure
  bind := Logged.bind

/-- An action that logs nothing. -/
def ofOutcome (outcome : Except Failure α) : Logged α := ⟨[], outcome⟩

/-- Log some entries. -/
def log (entries : List Entry) : Logged Unit := ⟨entries, .ok ()⟩

/-- A value by itself is its own outcome. -/
@[simp] theorem outcome_pure (a : α) : (pure a : Logged α).outcome = .ok a := rfl

/-- A value by itself logs nothing. -/
@[simp] theorem entries_pure (a : α) : (pure a : Logged α).entries = [] := rfl

/-- An outcome that is given keeps being the outcome. -/
@[simp] theorem outcome_ofOutcome (outcome : Except Failure α) :
    (ofOutcome outcome).outcome = outcome := rfl

/-- An outcome that is given logs nothing. -/
@[simp] theorem entries_ofOutcome (outcome : Except Failure α) :
    (ofOutcome outcome).entries = [] := rfl

/-- Logging does not fail. -/
@[simp] theorem outcome_log (entries : List Entry) : (log entries).outcome = .ok () := rfl

/-- What is to be logged is logged, and nothing else. -/
@[simp] theorem entries_log (entries : List Entry) : (log entries).entries = entries := rfl

/-- The outcomes of two actions, one after the other, are bound as outcomes are. -/
@[simp] theorem outcome_bind (action : Logged α) (next : α → Logged β) :
    (action >>= next).outcome = action.outcome.bind fun a => (next a).outcome := by
  show (Logged.bind action next).outcome = _
  unfold Logged.bind
  split <;> simp_all [Except.bind]

/-- After an action that succeeds, the entries of the next one follow. -/
theorem entries_bind_of_ok {action : Logged α} {a : α} (h : action.outcome = .ok a)
    (next : α → Logged β) : (action >>= next).entries = action.entries ++ (next a).entries := by
  show (Logged.bind action next).entries = _
  unfold Logged.bind
  rw [h]

/-- After an action that fails, nothing follows. -/
theorem entries_bind_of_error {action : Logged α} {failure : Failure}
    (h : action.outcome = .error failure) (next : α → Logged β) :
    (action >>= next).entries = action.entries := by
  show (Logged.bind action next).entries = _
  unfold Logged.bind
  rw [h]

/-- What holds of the entries of each of two actions holds of those of one after the other. -/
theorem forall_mem_entries_bind {P : Entry → Prop} {action : Logged α} {next : α → Logged β}
    (haction : ∀ e ∈ action.entries, P e) (hnext : ∀ a, ∀ e ∈ (next a).entries, P e) :
    ∀ e ∈ (action >>= next).entries, P e := by
  cases h : action.outcome with
  | ok a =>
    rw [entries_bind_of_ok h]
    exact List.forall_mem_append.2 ⟨haction, hnext a⟩
  | error failure =>
    rw [entries_bind_of_error h]
    exact haction

end Logged

end FilterGraph.Log
