import FilterGraph.Proofs.SessionRuns

/-!
# Steps that stand by themselves

The steps of a session that compile, annotate or validate a graph depend on nothing in the session,
and nothing in the session depends on them. Each of them has an answer of its own
(`Step.standalone?`), which is the outcome of the operation without a session, and it leaves the
state as it is (`State.step_of_standalone`). So a run answers these steps as if there were no run
around them, and the turns of all other steps are the same when some of them are left out
(`turns_standalone`).
-/

set_option autoImplicit false

namespace FilterGraph.Session

/-- The answer that a step which compiles, annotates or validates a graph has by itself. -/
def Step.standalone? : Step → Option (Except Failure Answer)
  | .compile graph strict => some ((graph.command strict).map .text)
  | .compileArguments graph strict => some ((graph.arguments strict).map .texts)
  | .annotate graph => some (graph.annotate.map .annotated)
  | .validate graph => some (graph.validate.map .report)
  | _ => none

/-- A step with an answer of its own gives just this answer and leaves the state as it is. -/
theorem State.step_of_standalone [Settings.Loader] (s : State) {step : Step}
    {answer : Except Failure Answer} (h : step.standalone? = some answer) :
    (s.step step).state = s ∧ (s.step step).outcome = answer := by
  cases step with
  | compile graph strict =>
    obtain rfl := Option.some.inj h
    rw [step, run_map_eq (Log.isPlain_command graph strict), ← Log.outcome_command]
    exact ⟨rfl, rfl⟩
  | compileArguments graph strict =>
    obtain rfl := Option.some.inj h
    rw [step, run_map_eq (Log.isPlain_arguments graph strict), ← Log.outcome_arguments]
    exact ⟨rfl, rfl⟩
  | annotate graph =>
    obtain rfl := Option.some.inj h
    rw [step, run_map_eq (Log.isPlain_annotate graph)]
    exact ⟨rfl, rfl⟩
  | validate graph =>
    obtain rfl := Option.some.inj h
    rw [step, run_map_eq (Log.isPlain_validate graph), ← Log.outcome_validate]
    exact ⟨rfl, rfl⟩
  | _ => exact nomatch h

/-- The members of a list at the places that are kept. -/
def keepAt {α : Type} : (Nat → Bool) → List α → List α
  | _, [] => []
  | kept, a :: rest =>
    let others := keepAt (fun place => kept (place + 1)) rest
    if kept 0 then a :: others else others

/-- Leaving out steps that stand by themselves leaves out their turns and changes no other turn. -/
theorem turns_keepAt [Settings.Loader] (s : State) (steps : List Step) (kept : Nat → Bool)
    (hleft : ∀ place step, steps[place]? = some step → kept place = false →
      step.standalone?.isSome = true) :
    turns s (keepAt kept steps) = keepAt kept (turns s steps) := by
  induction steps generalizing s kept with
  | nil => rfl
  | cons step rest ih =>
    have hrest := ih (s.step step).state (fun place => kept (place + 1))
      fun place other hother hplace => hleft (place + 1) other hother hplace
    cases hfirst : kept 0 with
    | true =>
      simp only [keepAt, turns, hfirst, if_true]
      rw [hrest]
    | false =>
      -- the step that is left out would have led to the state that the rest starts from anyway
      obtain ⟨answer, hanswer⟩ := Option.isSome_iff_exists.1 (hleft 0 step rfl hfirst)
      rw [(s.step_of_standalone hanswer).1] at hrest
      simp only [keepAt, turns, hfirst, Bool.false_eq_true, if_false]
      rw [hrest, (s.step_of_standalone hanswer).1]

/-- **Compilation has no part in the session.** In a run from any state, each step that compiles,
annotates or validates a graph gives the answer that it has by itself, and stays in the state that
the steps before it lead to. If any of these steps are left out of the run, then all steps that are
kept have the same turns: the same answers, the same records and the same states. -/
theorem turns_standalone [Settings.Loader] (s : State) (steps : List Step) :
    (∀ (place : Nat) (step : Step) (answer : Except Failure Answer),
      steps[place]? = some step → step.standalone? = some answer →
      ∃ turn, (turns s steps)[place]? = some turn ∧ turn.outcome = answer ∧
        turn.state = after s (steps.take place)) ∧
    ∀ kept : Nat → Bool,
      (∀ (place : Nat) (step : Step), steps[place]? = some step → kept place = false →
        step.standalone?.isSome = true) →
      turns s (keepAt kept steps) = keepAt kept (turns s steps) := by
  refine ⟨?_, fun kept => turns_keepAt s steps kept⟩
  intro place step answer hstep hanswer
  obtain ⟨hstate, houtcome⟩ := (after s (steps.take place)).step_of_standalone hanswer
  refine ⟨(after s (steps.take place)).step step, ?_, houtcome, hstate⟩
  rw [turns_getElem?, hstep]
  rfl

/-- A graph whose output takes in a label that nothing stands for. -/
def unfedGraph : Graph :=
  [.stream (.reading "in.mp4"), .stream (.writing "out.mp4" "" (some ["lost"]))]

/-- A run that makes the log as loud as it can be, compiles a graph with a mistake, and makes the
log quiet again. -/
def loudRun : List Step :=
  [.setVariable "FFGRAPH_LOG_LEVEL" "debug", .configure none, .compile unfedGraph true,
    .setLevel "ERROR", .validate unfedGraph]

/-- The graph is refused within the run as it is without one, and the other steps of the run go as
they go without compiling or validating anything. -/
theorem turns_loudRun :
    (∃ turn, (turns {} loudRun)[2]? = some turn ∧ turn.outcome = .error (.refused {
      valid := false
      errors := ["Pad 'lost' is referenced but never produced"] })) ∧
    turns {} [.setVariable "FFGRAPH_LOG_LEVEL" "debug", .configure none, .setLevel "ERROR"] =
      keepAt (fun place => place != 2 && place != 4) (turns {} loudRun) := by
  obtain ⟨hanswers, hkept⟩ := turns_standalone {} loudRun
  constructor
  · obtain ⟨turn, hturn, houtcome, -⟩ := hanswers 2 (.compile unfedGraph true) _ rfl rfl
    exact ⟨turn, hturn, houtcome⟩
  · refine hkept (fun place => place != 2 && place != 4) ?_
    intro place step hstep hplace
    obtain rfl | rfl : place = 2 ∨ place = 4 := by
      by_contra hother
      simp_all
    · obtain rfl := Option.some.inj hstep
      rfl
    · obtain rfl := Option.some.inj hstep
      rfl

end FilterGraph.Session
