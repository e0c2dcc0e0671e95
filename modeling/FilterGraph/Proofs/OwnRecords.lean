import FilterGraph.Proofs.Messages
import FilterGraph.Session

/-!
# Records of the library itself

Every entry that the library logs is plain: its template is a line, and it takes the plain text of
each argument (`Log.isPlain_of_mem_validate` and the like). Emitting such entries never fails, so a
logged action of the library runs to its own outcome (`run_eq`), and with escaping on all records
it emits are on one line (`isLine_records`).
-/

set_option autoImplicit false

namespace FilterGraph.Log

open FilterGraph.Text

/-! ### The entries of compilation and validation -/

/-- The entry about the errors of a report is plain. -/
theorem isPlain_errorsEntry (errors : List String) : (errorsEntry errors).IsPlain where
  template := show TakesPlain "[FFGRAPH-VALIDATE] %s error(s): %s" 2 by decide
  positional := rfl

/-- The entry about a warning is plain. -/
theorem isPlain_warningEntry (warning : String) : (warningEntry warning).IsPlain where
  template := show TakesPlain "[FFGRAPH-VALIDATE] %s" 1 by decide
  positional := rfl

/-- The entry about the numbers of inputs, stages and outputs is plain. -/
theorem isPlain_countsEntry (g : Graph) : (countsEntry g).IsPlain where
  template := show TakesPlain "[FFGRAPH-COMPILE] inputs=%s stages=%s outputs=%s" 3 by decide
  positional := rfl

/-- The entry about a command is plain. -/
theorem isPlain_commandEntry (text : String) : (commandEntry text).IsPlain where
  template := show TakesPlain "[FFGRAPH-COMPILE] %s" 1 by decide
  positional := rfl

/-- Whether all entries that an action asks to be logged are plain. -/
def Logged.IsPlain {α : Type} (action : Logged α) : Prop := ∀ e ∈ action.entries, e.IsPlain

namespace Logged

variable {α β : Type}

/-- A value by itself logs nothing, so nothing that is not plain. -/
theorem isPlain_pure (a : α) : (pure a : Logged α).IsPlain := nofun

/-- An outcome by itself logs nothing, so nothing that is not plain. -/
theorem isPlain_ofOutcome (outcome : Except Failure α) : (ofOutcome outcome).IsPlain := nofun

/-- An action that logs one plain entry logs plain entries only. -/
theorem isPlain_single {e : Entry} (he : e.IsPlain) (outcome : Except Failure α) :
    (⟨[e], outcome⟩ : Logged α).IsPlain :=
  List.forall_mem_singleton.2 he

/-- Two actions one after the other log plain entries only if each of them does. -/
theorem IsPlain.bind {action : Logged α} {next : α → Logged β} (haction : action.IsPlain)
    (hnext : ∀ a, (next a).IsPlain) : (action >>= next).IsPlain :=
  forall_mem_entries_bind haction hnext

end Logged

variable (g : Graph) (strict : Bool)

/-- Validating a graph logs plain entries only. -/
theorem isPlain_validate : (validate g).IsPlain := by
  refine .bind (Logged.isPlain_ofOutcome _) fun report => ?_
  refine .bind ?_ fun _ => Logged.isPlain_pure report
  intro e he
  rw [Logged.entries_log] at he
  split at he
  · exact absurd he List.not_mem_nil
  · obtain rfl := List.mem_singleton.1 he
    exact isPlain_errorsEntry report.errors

/-- Screening a graph logs plain entries only. -/
theorem isPlain_screen : (screen g strict).IsPlain := by
  cases strict with
  | false => exact Logged.isPlain_pure ()
  | true =>
    refine .bind (isPlain_validate g) fun report => ?_
    refine .bind ?_ fun _ => Logged.isPlain_ofOutcome report.screen
    intro e he
    obtain ⟨warning, -, rfl⟩ := List.mem_map.1 he
    exact isPlain_warningEntry warning

/-- Compiling a graph to text logs plain entries only. -/
theorem isPlain_command : (command g strict).IsPlain := by
  refine .bind (isPlain_screen g strict) fun _ => ?_
  refine .bind (Logged.isPlain_single (isPlain_countsEntry g) _) fun _ => ?_
  refine .bind (Logged.isPlain_ofOutcome _) fun text => ?_
  refine .bind (Logged.isPlain_single (isPlain_commandEntry text) _) fun _ => ?_
  exact Logged.isPlain_pure text

/-- Compiling a graph to arguments logs plain entries only. -/
theorem isPlain_arguments : (arguments g strict).IsPlain :=
  .bind (isPlain_screen g strict) fun _ => Logged.isPlain_ofOutcome _

/-- Annotating a graph logs plain entries only. -/
theorem isPlain_annotate : (annotate g).IsPlain := Logged.isPlain_ofOutcome _

end FilterGraph.Log

namespace FilterGraph.Session.State

open FilterGraph.Log FilterGraph.Text

/-! ### What plain entries emit -/

/-- The records of some entries, if none of them fails. -/
def records (s : State) (entries : List Entry) : List Record :=
  ((s.emitAll entries).toOption).getD []

variable {s : State}

/-- What is emitted depends on nothing but the level in force and whether escaping is on. -/
theorem records_congr {t : State} (hlevel : s.level = t.level) (hescaping : s.escaping = t.escaping)
    (entries : List Entry) : s.records entries = t.records entries := by
  have hemit : s.emit = t.emit := by
    funext e
    unfold emit admits
    rw [hlevel, hescaping]
  unfold records emitAll
  rw [hemit]

/-- A plain entry is emitted as a record or not at all. -/
theorem exists_emit (s : State) {e : Entry} (he : e.IsPlain) :
    ∃ records, s.emit e = .ok records := by
  obtain ⟨record, hrecord⟩ := he.exists_record s.escaping
  unfold emit
  rw [hrecord]
  split
  · exact ⟨[record], rfl⟩
  · exact ⟨[], rfl⟩

/-- Plain entries are emitted one after the other, and none of them fails. -/
theorem emitAll_eq {entries : List Entry} (hplain : ∀ e ∈ entries, e.IsPlain) :
    s.emitAll entries = .ok (s.records entries) := by
  have hall : ∃ parts, entries.mapM s.emit = .ok parts := by
    induction entries with
    | nil => exact ⟨[], rfl⟩
    | cons e rest ih =>
      obtain ⟨he, hrest⟩ := List.forall_mem_cons.1 hplain
      obtain ⟨part, hpart⟩ := s.exists_emit he
      obtain ⟨parts, hparts⟩ := ih hrest
      exact ⟨part :: parts, by rw [List.mapM_cons, hpart, hparts]; rfl⟩
  obtain ⟨parts, hparts⟩ := hall
  unfold records emitAll
  rw [hparts]
  rfl

/-- The records of some plain entries come before those of the entries that follow. -/
theorem records_append {entries others : List Entry} (hentries : ∀ e ∈ entries, e.IsPlain)
    (hothers : ∀ e ∈ others, e.IsPlain) :
    s.records (entries ++ others) = s.records entries ++ s.records others := by
  obtain ⟨parts, hparts, heq⟩ := Outcome.map_eq_ok_iff.1 (emitAll_eq (s := s) hentries)
  obtain ⟨otherParts, hotherParts, hotherEq⟩ :=
    Outcome.map_eq_ok_iff.1 (emitAll_eq (s := s) hothers)
  have hall : (entries ++ others).mapM s.emit = .ok (parts ++ otherParts) := by
    rw [Outcome.mapM_eq_ok_iff] at hparts hotherParts ⊢
    exact List.rel_append hparts hotherParts
  rw [← heq, ← hotherEq, ← List.flatten_append]
  unfold records emitAll
  rw [hall]
  rfl

/-- A plain action runs to its own outcome and leaves the state as it is. -/
theorem run_eq {α : Type} {action : Logged α} (hplain : action.IsPlain) :
    s.run action = ⟨s, s.records action.entries, action.outcome⟩ := by
  unfold run
  rw [emitAll_eq hplain]

/-- A step that runs a plain action answers with what its outcome is made into. -/
theorem run_map_eq {α : Type} {action : Logged α} (hplain : action.IsPlain) (answer : α → Answer) :
    (s.run action).map answer = ⟨s, s.records action.entries, action.outcome.map answer⟩ := by
  rw [run_eq hplain]
  rfl

/-- An entry is emitted as its record if the state admits its level. -/
theorem records_single {e : Entry} (hown : isOwnLogger e.logger = true) {r : Record}
    (h : e.record s.escaping = .ok r) :
    s.records [e] = if s.admits e.level then [r] else [] := by
  unfold records emitAll
  rw [List.mapM_cons]
  unfold emit
  rw [h, hown, Bool.true_and]
  split <;> rfl

/-- Every record that is emitted for plain entries is the record of one of them. -/
theorem exists_of_mem_records {entries : List Entry} (hplain : ∀ e ∈ entries, e.IsPlain)
    {r : Record} (hr : r ∈ s.records entries) : ∃ e ∈ entries, e.record s.escaping = .ok r := by
  obtain ⟨parts, hparts, heq⟩ := Outcome.map_eq_ok_iff.1 (emitAll_eq (s := s) hplain)
  rw [← heq] at hr
  obtain ⟨part, hpart, hr⟩ := List.mem_flatten.1 hr
  obtain ⟨e, he, hemit⟩ := Outcome.exists_of_mem_mapM hparts hpart
  obtain ⟨record, hrecord⟩ := (hplain e he).exists_record s.escaping
  unfold emit at hemit
  rw [hrecord] at hemit
  split at hemit
  · obtain rfl := Except.ok.inj hemit
    obtain rfl := List.mem_singleton.1 hr
    exact ⟨e, he, hrecord⟩
  · obtain rfl := Except.ok.inj hemit
    exact absurd hr List.not_mem_nil

/-- With escaping on, the records of plain entries are on one line. -/
theorem isLine_records (hescaping : s.escaping = true) {entries : List Entry}
    (hplain : ∀ e ∈ entries, e.IsPlain) {r : Record} (hr : r ∈ s.records entries) :
    IsLine r.message.toList := by
  obtain ⟨e, he, hrecord⟩ := exists_of_mem_records hplain hr
  rw [hescaping] at hrecord
  exact Entry.record_isLine (hplain e he).template.1 hrecord

end FilterGraph.Session.State
