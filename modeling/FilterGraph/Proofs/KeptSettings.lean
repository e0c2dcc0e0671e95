import FilterGraph.Proofs.SessionRuns

/-!
# Settings that are kept

Settings are asked for by themselves or by setting up logging without fields. The first call that
loads them keeps them, and until they are cleared every later call gives the kept ones, does not
load anything and announces nothing, whatever becomes of the environment in between. A call while
none are kept is a load from the environment of that moment; if it fails, nothing is kept
(`keptSettings_in_run`).

The kept settings are a part of the state that only two kinds of steps write: those that ask for
settings and get them, and those that clear them (`State.cache_step`). What is loaded is up to the
loader, which may be any.
-/

set_option autoImplicit false

namespace FilterGraph.Session

open FilterGraph.Log

/-- Whether a step asks for the kept settings: by itself, or by setting up logging without
fields. -/
def Step.asksKept : Step → Bool
  | .keptSettings | .configure none => true
  | _ => false

namespace State

variable [Settings.Loader] {s : State} {step : Step} {settings : Settings}

/-! ### What is kept -/

/-- What a step writes to the place of the kept settings, if it writes anything. -/
def keeps? (s : State) : Step → Option (Option Settings)
  | .keptSettings | .configure none => (s.effective none).toOption.map some
  | .clearCache => some none
  | _ => none

/-- After a step, what the step writes is kept, and what was kept before if it writes nothing. -/
theorem cache_step (s : State) (step : Step) :
    (s.step step).state.cache = (s.keeps? step).getD s.cache := by
  rw [state_step]
  cases step with
  | keptSettings =>
    unfold next keeps?
    dsimp only
    cases s.effective none <;> rfl
  | configure fields =>
    unfold next
    dsimp only
    cases fields with
    | none =>
      unfold keeps?
      dsimp only
      cases s.effective none <;> rfl
    | some fields => cases s.effective (some fields) <;> rfl
  | _ => rfl

/-- A step that asks for the kept settings writes the settings that it gets. -/
theorem keeps?_of_asksKept (s : State) (h : step.asksKept = true) :
    s.keeps? step = (s.effective none).toOption.map some := by
  unfold Step.asksKept at h
  split at h
  · rfl
  · rfl
  · exact nomatch h

/-- Settings are only written by a step that asks for them and gets them. -/
theorem asksKept_of_keeps? (h : s.keeps? step = some (some settings)) :
    step.asksKept = true ∧ s.effective none = .ok settings := by
  have heffective : (s.effective none).toOption.map some = some (some settings) →
      s.effective none = .ok settings := by
    cases s.effective none with
    | ok kept => simp [Except.toOption]
    | error failure => simp [Except.toOption]
  unfold keeps? at h
  split at h
  · exact ⟨rfl, heffective h⟩
  · exact ⟨rfl, heffective h⟩
  · exact nomatch h
  · exact nomatch h

/-- Settings that are kept are in force when no fields are given, with no need to load any. -/
theorem effective_of_kept (h : s.cache = some settings) : s.effective none = .ok settings := by
  unfold effective
  rw [h]
  rfl

/-- When nothing is kept and no fields are given, the settings are loaded. -/
theorem effective_of_none_kept (h : s.cache = none) : s.effective none = s.load [] := by
  unfold effective
  rw [h]
  rfl

/-- Kept settings stay the same after every step that does not clear them. -/
theorem cache_step_of_kept (h : s.cache = some settings) (hclear : step ≠ .clearCache) :
    (s.step step).state.cache = some settings := by
  rw [cache_step]
  unfold keeps?
  split
  · rw [effective_of_kept h]
    rfl
  · rw [effective_of_kept h]
    rfl
  · exact absurd rfl hclear
  · exact h

/-! ### What is answered -/

/-- A call for settings succeeds exactly when there are settings to go by, and then gives those. -/
theorem keptSettings_outcome_iff {before : Bool} :
    s.keptSettings.outcome = .ok (before, settings) ↔
      s.effective none = .ok settings ∧ before = s.cache.isSome := by
  cases h : s.effective none with
  | ok kept =>
    rw [keptSettings_of_ok h]
    simp [eq_comm, and_comm]
  | error failure =>
    rw [keptSettings_of_error h]
    simp

/-- Kept settings are given as they are: nothing is loaded, kept anew or logged. -/
theorem keptSettings_of_kept (h : s.cache = some settings) :
    s.keptSettings = ⟨s, [], .ok (true, settings)⟩ := by
  unfold keptSettings
  rw [h]

/-- With settings kept, setting up logging without fields is applying these settings. -/
theorem configure_of_kept (h : s.cache = some settings) : s.configure none = s.apply settings := by
  unfold configure
  dsimp only
  rw [keptSettings_of_kept h]
  unfold Turn.andThen
  dsimp only
  rw [List.nil_append]

omit [Settings.Loader] in
/-- Applying settings only logs about the level that they ask for. -/
theorem logger_of_mem_apply {r : Record} (hr : r ∈ (s.apply settings).records) :
    r.logger = setupLogger := by
  rw [apply_eq] at hr
  dsimp only at hr
  obtain ⟨e, he, hrecord⟩ := exists_of_mem_records (isPlain_levelEntries settings.logLevel) hr
  obtain ⟨message, -, rfl⟩ := Outcome.map_eq_ok_iff.1 hrecord
  unfold levelEntries at he
  split at he
  · exact absurd he List.not_mem_nil
  · obtain rfl := List.mem_singleton.1 he
    rfl

/-- The turn of a step that asks for settings while some are kept. -/
theorem step_of_kept (h : s.cache = some settings) (hasks : step.asksKept = true) :
    (∃ answer, (s.step step).outcome = .ok answer) ∧
      (s.step step).state.cache = some settings ∧
      ∀ r ∈ (s.step step).records, r.logger ≠ settingsLogger := by
  unfold Step.asksKept at hasks
  split at hasks
  · rw [State.step, Turn.map, keptSettings_of_kept h]
    exact ⟨⟨_, rfl⟩, h, nofun⟩
  · rw [State.step, Turn.map, configure_of_kept h]
    dsimp only
    refine ⟨⟨.done, ?_⟩, ?_, ?_⟩
    · rw [apply_eq]
      rfl
    · rw [apply_eq]
      exact h
    · intro r hr
      rw [logger_of_mem_apply hr]
      decide
  · exact nomatch hasks

/-- A call for settings while none are kept is a load, which is kept if it succeeds. -/
theorem keptSettings_of_none_kept (h : s.cache = none) :
    s.keptSettings.outcome = (s.load []).map (Prod.mk false) ∧
      s.keptSettings.state = { s with cache := (s.load []).toOption } := by
  have heffective := effective_of_none_kept h
  cases hload : s.load [] with
  | ok settings =>
    rw [keptSettings_of_ok (heffective.trans hload), h]
    exact ⟨rfl, rfl⟩
  | error failure =>
    rw [keptSettings_of_error (heffective.trans hload)]
    refine ⟨rfl, ?_⟩
    show s = { s with cache := none }
    rw [← h]

/-- The turn of a step that asks for settings while none are kept. -/
theorem step_of_none_kept (h : s.cache = none) (hasks : step.asksKept = true) :
    Outcome.failure? (s.step step).outcome = Outcome.failure? (s.load []) ∧
      (s.step step).state.cache = (s.load []).toOption := by
  constructor
  · rw [← effective_of_none_kept h]
    unfold Step.asksKept at hasks
    -- the two steps that ask go by the same settings and fail with them
    split at hasks
    · cases heffective : s.effective none with
      | ok settings =>
        rw [State.step, keptSettings_of_ok heffective]
        rfl
      | error failure =>
        rw [State.step, keptSettings_of_error heffective]
        rfl
    · cases heffective : s.effective none with
      | ok settings =>
        rw [State.step, configure_of_ok heffective]
        rfl
      | error failure =>
        rw [State.step, configure_of_error heffective]
        rfl
    · exact nomatch hasks
  · rw [cache_step, keeps?_of_asksKept s hasks, effective_of_none_kept h, h]
    cases s.load [] <;> rfl

end State

/-! ### Runs -/

section Runs

variable [Settings.Loader]

/-- The step at a place of a run from the start asks for settings and gets the given ones. -/
def GetsKept (steps : List Step) (i : ℕ) (settings : Settings) : Prop :=
  ∃ step before, steps[i]? = some step ∧ step.asksKept = true ∧
    (after {} (steps.take i)).keptSettings.outcome = .ok (before, settings)

variable {steps : List Step}

/-- Settings that a call gave are kept until they are cleared. -/
theorem GetsKept.cache_eq {i j : ℕ} {settings : Settings} (h : GetsKept steps i settings)
    (hij : i < j) (huncleared : ∀ k, i < k → k < j → steps[k]? ≠ some .clearCache) :
    (after {} (steps.take j)).cache = some settings := by
  obtain ⟨step, before, hstep, hasks, hgets⟩ := h
  refine after_take_induction (P := fun t => t.cache = some settings) hij ?_ ?_
  · rw [after_take_succ, hstep, Option.elim_some, State.cache_step,
      State.keeps?_of_asksKept _ hasks, (State.keptSettings_outcome_iff.1 hgets).1]
    rfl
  · intro k other hik hkj hother hk
    refine State.cache_step_of_kept hk ?_
    rintro rfl
    exact huncleared k hik hkj hother

/-- Settings are kept exactly if a call gave them and they have not been cleared since. -/
theorem cache_eq_some_iff (j : ℕ) (settings : Settings) :
    (after {} (steps.take j)).cache = some settings ↔
      ∃ i < j, GetsKept steps i settings ∧
        ∀ k, i < k → k < j → steps[k]? ≠ some .clearCache := by
  constructor
  · intro h
    rcases last_write {} steps State.cache_step j with ⟨hstart, -⟩ |
        ⟨i, hij, step, hstep, hwrite, hnone⟩
    · rw [h] at hstart
      exact nomatch hstart
    · rw [h] at hwrite
      obtain ⟨hasks, heffective⟩ := State.asksKept_of_keeps? hwrite
      have houtcome := State.keptSettings_outcome_iff.2 ⟨heffective, rfl⟩
      refine ⟨i, hij, ⟨step, _, hstep, hasks, houtcome⟩, ?_⟩
      intro k hik hkj hclear
      exact nomatch hnone k .clearCache hik hkj hclear
  · rintro ⟨i, hij, hgets, huncleared⟩
    exact hgets.cache_eq hij huncleared

/-- **Kept settings are stable until they are cleared.** Take any run of steps from the start, and
any step in it that asks for the kept settings.

* If an earlier step asked for them and got them, and no step in between clears them, then this step
  succeeds with the settings that were kept from before, which are the ones that the earlier step
  got. It announces no settings, and they stay kept.
* If none are kept, this step gets or fails with what loading settings from the environment and the
  environment file of that moment gives, and keeps them if that succeeds and nothing otherwise.

Some settings are kept at a place exactly if an earlier step asked for them and got them, and no
step since has cleared them. -/
theorem keptSettings_in_run (steps : List Step) :
    (∀ (i j : ℕ) (step : Step) (turn : Turn Answer) (settings : Settings), i < j →
      GetsKept steps i settings → (∀ k, i < k → k < j → steps[k]? ≠ some .clearCache) →
      steps[j]? = some step → step.asksKept = true → (turns {} steps)[j]? = some turn →
      let s := after {} (steps.take j)
      s.keptSettings = ⟨s, [], .ok (true, settings)⟩ ∧ (∃ answer, turn.outcome = .ok answer) ∧
        turn.state.cache = some settings ∧ ∀ r ∈ turn.records, r.logger ≠ settingsLogger) ∧
    (∀ (j : ℕ) (step : Step) (turn : Turn Answer),
      steps[j]? = some step → step.asksKept = true → (turns {} steps)[j]? = some turn →
      let s := after {} (steps.take j)
      s.cache = none →
      s.keptSettings.outcome = (s.load []).map (Prod.mk false) ∧
        Outcome.failure? turn.outcome = Outcome.failure? (s.load []) ∧
        turn.state.cache = (s.load []).toOption) ∧
    ∀ (j : ℕ) (settings : Settings),
      (after {} (steps.take j)).cache = some settings ↔
        ∃ i < j, GetsKept steps i settings ∧
          ∀ k, i < k → k < j → steps[k]? ≠ some .clearCache := by
  have hturn : ∀ {j : ℕ} {step : Step} {turn : Turn Answer}, steps[j]? = some step →
      (turns {} steps)[j]? = some turn → (after {} (steps.take j)).step step = turn := by
    intro j step turn hstep hturn
    rw [turns_getElem?, hstep] at hturn
    exact Option.some.inj hturn
  refine ⟨?_, ?_, cache_eq_some_iff⟩
  · intro i j step turn settings hij hgets huncleared hstep hasks hj
    have hkept := hgets.cache_eq hij huncleared
    obtain rfl := hturn hstep hj
    exact ⟨State.keptSettings_of_kept hkept, State.step_of_kept hkept hasks⟩
  · intro j step turn hstep hasks hj s hnone
    obtain rfl := hturn hstep hj
    exact ⟨(State.keptSettings_of_none_kept hnone).1, State.step_of_none_kept hnone hasks⟩

end Runs

/-- A run in which the environment changes under kept settings so that it cannot be loaded from any
more, until they are cleared and asked for again. -/
def spoiledRun : List Step :=
  [.setVariable "FFGRAPH_LOG_LEVEL" "debug", .keptSettings,
    .setVariable "FFGRAPH_SAFE_LOGGING" "perhaps", .loadSettings [],
    .configure (some [("log_level", .text "ERROR"), ("safe_logging", .bool false)]),
    .configure none, .clearCache, .keptSettings]

/-- Logging is set up by the kept settings, and only once they are cleared is it seen that there are
none to be loaded. -/
theorem keptSettings_in_spoiledRun :
    (∃ turn, (turns {} spoiledRun)[5]? = some turn ∧
      turn.state.cache = some { logLevel := "debug" } ∧
      ∀ r ∈ turn.records, r.logger ≠ settingsLogger) ∧
    ∃ turn, (turns {} spoiledRun)[7]? = some turn ∧ turn.state.cache = none ∧
      turn.outcome = .error (.badSettings [(.safeLogging, .notTruthText)]) := by
  obtain ⟨hstable, hfresh, -⟩ := keptSettings_in_run spoiledRun
  constructor
  · have hgets : GetsKept spoiledRun 1 { logLevel := "debug" } :=
      ⟨.keptSettings, false, rfl, rfl,
        State.keptSettings_outcome_iff.2 ⟨by decide +kernel, by decide +kernel⟩⟩
    have huncleared : ∀ k, 1 < k → k < 5 → spoiledRun[k]? ≠ some .clearCache := by
      intro k hlow hhigh
      obtain rfl | rfl | rfl : k = 2 ∨ k = 3 ∨ k = 4 := by omega
      · exact nofun
      · exact nofun
      · exact nofun
    have hturn : (turns {} spoiledRun)[5]? =
        some ((after {} (spoiledRun.take 5)).step (.configure none)) :=
      turns_getElem? {} spoiledRun 5
    have hkept := hstable 1 5 (.configure none) _ _ (by decide) hgets huncleared rfl rfl hturn
    exact ⟨_, hturn, hkept.2.2⟩
  · have hnone : (after {} (spoiledRun.take 7)).cache = none := by decide +kernel
    have hload : (after {} (spoiledRun.take 7)).load [] =
        .error (.badSettings [(.safeLogging, .notTruthText)]) := by decide +kernel
    have hturn : (turns {} spoiledRun)[7]? =
        some ((after {} (spoiledRun.take 7)).step .keptSettings) := turns_getElem? {} spoiledRun 7
    have hloads := (hfresh 7 .keptSettings _ rfl rfl hturn hnone).2
    rw [hload] at hloads
    exact ⟨_, hturn, hloads.2, Outcome.failure?_eq_some_iff.1 hloads.1⟩

end FilterGraph.Session
