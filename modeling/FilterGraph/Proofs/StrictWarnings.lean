import FilterGraph.Proofs.OwnRecords
import FilterGraph.Proofs.StrictOutcome

/-!
# The warnings of strict compilations

A strict compilation logs every warning of the validation before anything else is decided. What it
logs is what the validation logs, then one entry for each warning, and then, if the graph is not
refused, what the lenient compilation logs (`entries_screen_bind`). This is said once for whatever
is compiled to.

A warning is an argument of its entry and never a template, so it ends up in the record as it is, or
with its line breaks written out (`record_warningEntry`). Nothing but a strict compilation logs at
the level of a warning (`level_of_mem_command` and the like).
-/

set_option autoImplicit false

namespace FilterGraph.Log

open FilterGraph.Text

/-! ### The entry for a warning -/

/-- The record of a warning. -/
def warningRecord (escaping : Bool) (warning : String) : Record where
  logger := compilationLogger
  level := .warning
  message := "[FFGRAPH-VALIDATE] " ++ if escaping then escapeLineBreaks warning else warning

/-- The argument of a template whose only conversion is at its end comes after the rest of it. -/
theorem fillPieces_last (value : Scalar) (chars : List Char) :
    fillPieces none [value] (chars.map .char ++ [.plain]) = .ok (chars ++ value.plain.toList) := by
  induction chars with
  | nil =>
    rw [List.map_nil, List.nil_append, fillPieces, fillPieces]
    exact congrArg Except.ok (List.append_nil _)
  | cons c chars ih =>
    rw [List.map_cons, List.cons_append, fillPieces, ih]
    rfl

/-- The record of a warning never fails, and has the warning as it is or escaped. -/
theorem record_warningEntry (escaping : Bool) (warning : String) :
    (warningEntry warning).record escaping = .ok (warningRecord escaping warning) := by
  have hpieces : pieces "[FFGRAPH-VALIDATE] %s" =
      "[FFGRAPH-VALIDATE] ".toList.map .char ++ [.plain] := by decide
  have hfill : ∀ text, fill "[FFGRAPH-VALIDATE] %s" (.positional [.text text]) =
      .ok ("[FFGRAPH-VALIDATE] " ++ text) := by
    intro text
    have hplain : (Scalar.text text).plain = text := rfl
    rw [fill, hpieces, fillPieces_last, hplain, ← String.toList_append]
    · exact congrArg Except.ok String.ofList_toList
    · exact List.cons_ne_nil _ _
  refine Outcome.map_eq_ok_iff.2 ?_
  cases escaping with
  | false => exact ⟨_, hfill warning, rfl⟩
  | true => exact ⟨_, hfill (escapeLineBreaks warning), rfl⟩

variable (g : Graph)

/-! ### What is logged when -/

section Screened

variable {α : Type} {g} {report : Report}

/-- Strict screening logs what the validation logs and then the warnings. -/
theorem entries_screen_true (h : g.validate = .ok report) :
    (screen g true).entries = (validate g).entries ++ report.warnings.map warningEntry := by
  have hvalidate : (validate g).outcome = .ok report := (outcome_validate g).trans h
  unfold screen
  rw [if_pos rfl, Logged.entries_bind_of_ok hvalidate, Logged.entries_bind_of_ok rfl]
  exact congrArg _ (List.append_nil _)

/-- A strict compilation logs what the validation logs, then the warnings, and then what the lenient
compilation logs unless the graph is refused. -/
theorem entries_screen_bind (h : g.validate = .ok report) (next : Unit → Logged α) :
    (screen g true >>= next).entries =
      (validate g).entries ++ report.warnings.map warningEntry ++
        if report.valid then (screen g false >>= next).entries else [] := by
  have hpassed : (screen g false).outcome = .ok () := rfl
  have hlenient : (screen g false >>= next).entries = (next ()).entries :=
    Logged.entries_bind_of_ok hpassed next
  have hscreen : (screen g true).outcome = report.screen :=
    (outcome_screen g true).trans (Graph.screen_of_validate_eq_ok h)
  unfold Report.screen at hscreen
  rw [hlenient, ← entries_screen_true h]
  split at hscreen
  · rename_i hvalid
    rw [Logged.entries_bind_of_ok hscreen, if_pos hvalid]
  · rename_i hvalid
    rw [Logged.entries_bind_of_error hscreen, if_neg hvalid, List.append_nil]

/-- A strict compilation has the outcome of the lenient one unless the graph is refused. -/
theorem outcome_screen_bind (h : g.validate = .ok report) (next : Unit → Logged α) :
    (screen g true >>= next).outcome =
      if report.valid then (screen g false >>= next).outcome else .error (.refused report) := by
  rw [Logged.outcome_bind, outcome_screen]
  exact Graph.screen_bind_of_validate_eq_ok h (next ()).outcome

end Screened

/-- What the validation logs is about the validation, and no warning. -/
theorem logger_level_of_mem_validate :
    ∀ e ∈ (validate g).entries, e.logger = validationLogger ∧ e.level = .debug := by
  refine Logged.forall_mem_entries_bind nofun fun report => ?_
  refine Logged.forall_mem_entries_bind ?_ fun _ => nofun
  intro e he
  rw [Logged.entries_log] at he
  split at he
  · exact absurd he List.not_mem_nil
  · obtain rfl := List.mem_singleton.1 he
    exact ⟨rfl, rfl⟩

/-- A lenient compilation to text logs for debugging only. -/
theorem level_of_mem_command : ∀ e ∈ (command g false).entries, e.level = .debug := by
  refine Logged.forall_mem_entries_bind nofun fun _ => ?_
  refine Logged.forall_mem_entries_bind (List.forall_mem_singleton.2 rfl) fun _ => ?_
  refine Logged.forall_mem_entries_bind nofun fun text => ?_
  exact Logged.forall_mem_entries_bind (List.forall_mem_singleton.2 rfl) fun _ => nofun

/-- A lenient compilation to arguments logs for debugging only. -/
theorem level_of_mem_arguments : ∀ e ∈ (arguments g false).entries, e.level = .debug :=
  Logged.forall_mem_entries_bind nofun fun _ => nofun

/-- A record has the logger and the level of its entry. -/
theorem Entry.logger_level_of_record {e : Entry} {escaping : Bool} {r : Record}
    (h : e.record escaping = .ok r) : r.logger = e.logger ∧ r.level = e.level := by
  obtain ⟨message, -, rfl⟩ := Outcome.map_eq_ok_iff.1 h
  exact ⟨rfl, rfl⟩

end FilterGraph.Log

namespace FilterGraph.Session

open FilterGraph.Log FilterGraph.Text

namespace State

variable {s : State}

/-- All warnings are emitted, in order, if the level in force admits them. -/
theorem records_warningEntries (hadmits : s.admits .warning = true) (warnings : List String) :
    s.records (warnings.map warningEntry) = warnings.map (warningRecord s.escaping) := by
  induction warnings with
  | nil => rfl
  | cons warning rest ih =>
    have hplain : ∀ e ∈ rest.map warningEntry, e.IsPlain :=
      List.forall_mem_map.2 fun other _ => isPlain_warningEntry other
    have hown : isOwnLogger (warningEntry warning).logger = true :=
      show isOwnLogger compilationLogger = true by decide
    have hfirst : s.records [warningEntry warning] = [warningRecord s.escaping warning] := by
      rw [records_single hown (record_warningEntry s.escaping warning)]
      exact if_pos hadmits
    have happend := records_append (s := s)
      (List.forall_mem_singleton.2 (isPlain_warningEntry warning)) hplain
    rw [hfirst, ih] at happend
    exact happend

/-- What a strict compilation emits, whatever it compiles to. -/
theorem records_strict {α : Type} {g : Graph} {report : Report} (h : g.validate = .ok report)
    (hadmits : s.admits .warning = true) {next : Unit → Logged α}
    (hnext : ∀ strict, (screen g strict >>= next).IsPlain) :
    s.records (screen g true >>= next).entries =
      s.records (validate g).entries ++ report.warnings.map (warningRecord s.escaping) ++
        if report.valid then s.records (screen g false >>= next).entries else [] := by
  have hwarnings : ∀ e ∈ report.warnings.map warningEntry, e.IsPlain :=
    List.forall_mem_map.2 fun warning _ => isPlain_warningEntry warning
  have hscreened := List.forall_mem_append.2 ⟨isPlain_validate g, hwarnings⟩
  have hrest : ∀ e ∈ if report.valid then (screen g false >>= next).entries else [],
      e.IsPlain := by
    split
    · exact hnext false
    · exact nofun
  rw [entries_screen_bind h, records_append hscreened hrest,
    records_append (isPlain_validate g) hwarnings, records_warningEntries hadmits,
    apply_ite s.records]
  rfl

/-- Every record of entries at one level is at that level. -/
theorem level_of_mem_records {entries : List Entry} (hplain : ∀ e ∈ entries, e.IsPlain)
    {level : Level} (hlevel : ∀ e ∈ entries, e.level = level) :
    ∀ r ∈ s.records entries, r.level = level := by
  intro r hr
  obtain ⟨e, he, hrecord⟩ := exists_of_mem_records hplain hr
  exact (Entry.logger_level_of_record hrecord).2.trans (hlevel e he)

end State

/-- The records of a turn at the level of a warning. -/
def Turn.warnings (turn : Turn Answer) : List Record :=
  turn.records.filter fun r => r.level = .warning

/-- What a strict compilation emits and answers, by what the validation and the lenient compilation
of the same graph do. -/
structure Warns (s : State) (report : Report) (validated lenient strict : Turn Answer) : Prop where
  /-- The warnings come after what the validation emits and before what compiling emits. -/
  records : strict.records =
    validated.records ++ report.warnings.map (warningRecord s.escaping) ++
      if report.valid then lenient.records else []
  /-- There are no other warnings. -/
  warnings : strict.warnings = report.warnings.map (warningRecord s.escaping)
  /-- A graph that is refused has been warned about before. -/
  outcome : strict.outcome = if report.valid then lenient.outcome else .error (.refused report)

section Runs

variable {α : Type} {s : State} {g : Graph}

/-- A step that only logs below the level of a warning emits no warning. -/
theorem warnings_run_eq_nil {action : Logged α} (hplain : action.IsPlain)
    (hlevel : ∀ e ∈ action.entries, e.level = .debug) (answer : α → Answer) :
    ((s.run action).map answer).warnings = [] := by
  rw [State.run_map_eq hplain, Turn.warnings, List.filter_eq_nil_iff]
  intro r hr
  rw [State.level_of_mem_records hplain hlevel r hr]
  decide

/-- Validation by itself emits no warning. -/
theorem warnings_validate_eq_nil [Settings.Loader] : (s.step (.validate g)).warnings = [] :=
  warnings_run_eq_nil (isPlain_validate g) (fun e he => (logger_level_of_mem_validate g e he).2) _

/-- A strict compilation warns, whatever it compiles to. -/
theorem warns_run [Settings.Loader] {report : Report} (h : g.validate = .ok report)
    (hadmits : s.admits .warning = true) {next : Unit → Logged α}
    (hplain : ∀ strict, (screen g strict >>= next).IsPlain)
    (hlevel : ∀ e ∈ (screen g false >>= next).entries, e.level = .debug) (answer : α → Answer) :
    Warns s report (s.step (.validate g)) ((s.run (screen g false >>= next)).map answer)
      ((s.run (screen g true >>= next)).map answer) := by
  have hrecords : ((s.run (screen g true >>= next)).map answer).records =
      (s.step (.validate g)).records ++ report.warnings.map (warningRecord s.escaping) ++
        if report.valid then ((s.run (screen g false >>= next)).map answer).records else [] := by
    -- all three turns emit the entries of their actions in the same state
    have hstrict := State.records_strict h hadmits hplain
    rw [State.step, State.run_map_eq (isPlain_validate g), State.run_map_eq (hplain true),
      State.run_map_eq (hplain false)]
    exact hstrict
  have hvalidate : (s.step (.validate g)).warnings = [] := warnings_validate_eq_nil
  have hlenient := warnings_run_eq_nil (s := s) (hplain false) hlevel answer
  unfold Turn.warnings at hvalidate hlenient
  refine ⟨hrecords, ?_, ?_⟩
  · have hwarnings : (report.warnings.map (warningRecord s.escaping)).filter
        (fun r => r.level = .warning) = report.warnings.map (warningRecord s.escaping) := by
      rw [List.filter_eq_self, List.forall_mem_map]
      exact fun _ _ => rfl
    have hrest : (if report.valid then ((s.run (screen g false >>= next)).map answer).records
        else []).filter (fun r => r.level = .warning) = [] := by
      split
      · exact hlenient
      · rfl
    rw [Turn.warnings, hrecords, List.filter_append, List.filter_append, hvalidate, hwarnings,
      hrest, List.nil_append, List.append_nil]
  · rw [State.run_map_eq (hplain true), State.run_map_eq (hplain false)]
    dsimp only
    rw [outcome_screen_bind h]
    split <;> rfl

end Runs

/-- The two ways in which a graph is compiled, strictly or not. -/
def compilations (g : Graph) : List (Bool → Step) := [.compile g, .compileArguments g]

/-- The steps that go through a graph and are not strict. -/
def lenientSteps (g : Graph) : List Step :=
  [.validate g, .compile g false, .compileArguments g false, .annotate g]

/-- **Warnings of strict compilations.** A strict compilation of a graph that can be validated emits
one record for each warning, in order, after what the validation emits and before anything that
compiling emits, also if it then refuses the graph. These are its only records at the level of a
warning, and no step that is not strict has any. -/
theorem strict_warnings [Settings.Loader] (s : State) (g : Graph) :
    (∀ report, g.validate = .ok report → s.admits .warning = true → ∀ compile ∈ compilations g,
      Warns s report (s.step (.validate g)) (s.step (compile false)) (s.step (compile true))) ∧
    (∀ r ∈ (s.step (.validate g)).records, r.logger = validationLogger) ∧
    ∀ step ∈ lenientSteps g, (s.step step).warnings = [] := by
  refine ⟨?_, ?_, ?_⟩
  · intro report h hadmits compile hcompile
    rcases List.mem_pair.1 hcompile with rfl | rfl
    · exact warns_run h hadmits (isPlain_command g) (level_of_mem_command g) .text
    · exact warns_run h hadmits (isPlain_arguments g) (level_of_mem_arguments g) .texts
  · intro r hr
    rw [State.step, State.run_map_eq (isPlain_validate g)] at hr
    obtain ⟨e, he, hrecord⟩ := State.exists_of_mem_records (isPlain_validate g) hr
    exact (Entry.logger_level_of_record hrecord).1.trans (logger_level_of_mem_validate g e he).1
  · unfold lenientSteps
    simp only [List.forall_mem_cons]
    refine ⟨?_, ?_, ?_, ?_, nofun⟩
    · exact warnings_validate_eq_nil
    · exact warnings_run_eq_nil (isPlain_command g false) (level_of_mem_command g) _
    · exact warnings_run_eq_nil (isPlain_arguments g false) (level_of_mem_arguments g) _
    · exact warnings_run_eq_nil (isPlain_annotate g) nofun _

/-- A graph with an output pad that nothing takes in, whose label holds a conversion and a line
feed, and with an output that takes in a label that nothing stands for. -/
def wastefulGraph : Graph :=
  [.stream (.reading "in.mp4"),
    .stage {
      inputPads := ["0:v"]
      outputPads := ["50%s\nspare"]
      operations := [{ name := "scale", options := .payload (.raw "640:-1") }] },
    .stream (.writing "out.mp4" "" (some ["lost"]))]

/-- The report on the graph. -/
def wastefulReport : Report where
  valid := false
  errors := ["Pad 'lost' is referenced but never produced"]
  warnings := ["Pad '50%s\nspare' is produced but never consumed"]

/-- A strict compilation refuses the graph after it has logged the warning, on one line. -/
theorem strict_warnings_wastefulGraph :
    wastefulGraph.validate = .ok wastefulReport ∧
      (State.step { escaping := true } (.compile wastefulGraph true)).warnings =
        [{ logger := "ffgraph.compiler"
           level := .warning
           message :=
            "[FFGRAPH-VALIDATE] Pad '50%s\\nspare' is produced but never consumed" }] ∧
      (State.step { escaping := true } (.compile wastefulGraph true)).outcome =
        .error (.refused wastefulReport) := by
  have hvalidate : wastefulGraph.validate = .ok wastefulReport := rfl
  have hadmits : State.admits { escaping := true } .warning = true := by decide
  have hescaped : escapeLineBreaks "Pad '50%s\nspare' is produced but never consumed" =
      "Pad '50%s\\nspare' is produced but never consumed" :=
    escapeLineBreaks_eq_iff.2 (by decide)
  obtain ⟨hstrict, -⟩ := strict_warnings { escaping := true } wastefulGraph
  have hwarns := hstrict wastefulReport hvalidate hadmits (.compile wastefulGraph)
    List.mem_cons_self
  refine ⟨hvalidate, ?_, hwarns.outcome⟩
  rw [hwarns.warnings]
  unfold wastefulReport warningRecord
  rw [List.map_singleton, if_pos rfl, hescaped]
  rfl

end FilterGraph.Session
