import FilterGraph.Proofs.OwnRecords

/-!
# Steps and runs of a session

Each operation that sets up logging has an equation that says what it does to the state, what it
emits and what it answers: `setLevel_eq`, `apply_eq`, `keptSettings_of_ok` and `configure_of_ok`.
What a step does to the state is said once, by `state_step`. What becomes of one part of the state
is read off from it: line breaks are escaped after a step if they were before or if the step
installs escaping (`escaping_step`).

A run is followed through its states. `turns_getElem?` finds the turn at an index as the step there,
done in the state that the steps before it lead to; `last_write` finds what is in a part of the
state by going back to the step that wrote it.

The statements hold for every loader: all that is asked of it is that it gives settings or fails.
-/

set_option autoImplicit false

namespace FilterGraph.Session.State

open FilterGraph.Log

variable {s : State}

/-! ### Setting the level -/

/-- The level that a text asks for: the one it names, or else INFO. -/
def levelFor (text : String) : Level := (Level.named? text).getD .info

/-- What is logged about a text that asks for a level. -/
def levelEntries (text : String) : List Entry :=
  if (Level.named? text).isSome then [] else [unknownLevelEntry text]

/-- The entry about a text that names no level is plain. -/
theorem isPlain_unknownLevelEntry (text : String) : (unknownLevelEntry text).IsPlain where
  template := show TakesPlain "Invalid log level '%s', using INFO" 1 by decide
  positional := rfl

/-- What is logged about a text that asks for a level is plain. -/
theorem isPlain_levelEntries (text : String) : ∀ e ∈ levelEntries text, e.IsPlain := by
  unfold levelEntries
  split
  · exact nofun
  · exact List.forall_mem_singleton.2 (isPlain_unknownLevelEntry text)

/-- Setting a level never fails, and puts the level that the text asks for in force. -/
theorem setLevel_eq (s : State) (text : String) :
    s.setLevel text =
      ⟨{ s with level := some (levelFor text) }, s.records (levelEntries text),
        .ok (levelFor text)⟩ := by
  unfold setLevel levelFor levelEntries
  cases Level.named? text with
  | some level => rfl
  | none =>
    dsimp only
    rw [run_eq (Logged.isPlain_single (isPlain_unknownLevelEntry text) _)]
    simp [Turn.andThen]

/-- Applying settings turns escaping on if they ask for it, before the level is set. -/
theorem apply_eq (s : State) (settings : Settings) :
    s.apply settings =
      ⟨{ s with
          escaping := s.escaping || settings.safeLogging
          level := some (levelFor settings.logLevel) },
        { s with escaping := s.escaping || settings.safeLogging }.records
          (levelEntries settings.logLevel),
        .ok (levelFor settings.logLevel)⟩ :=
  setLevel_eq _ settings.logLevel

/-! ### Settings -/

/-- What is logged before the settings are applied: that they were loaded, if they are to be kept
and none were. -/
def loadEntries (s : State) (fields : Option (Entries Scalar)) (settings : Settings) : List Entry :=
  if fields.isNone && s.cache.isNone then [loadedEntry settings] else []

/-- The entry about the settings that have been loaded is plain. -/
theorem isPlain_loadedEntry (settings : Settings) : (loadedEntry settings).IsPlain where
  template :=
    show TakesPlain "[FFGRAPH-CONFIG] Loaded settings: log_level=%s safe_logging=%s" 2 by decide
  positional := rfl

/-- What is logged before the settings are applied is plain. -/
theorem isPlain_loadEntries (s : State) (fields : Option (Entries Scalar)) (settings : Settings) :
    ∀ e ∈ s.loadEntries fields settings, e.IsPlain := by
  unfold loadEntries
  split
  · exact List.forall_mem_singleton.2 (isPlain_loadedEntry settings)
  · exact nofun

variable [Settings.Loader]

/-- The settings that setting up logging goes by: those made from the given fields, or else the
kept ones, or else those that are loaded now. -/
def effective (s : State) : Option (Entries Scalar) → Except Failure Settings
  | some fields => s.load fields
  | none => s.cache.elim (s.load []) .ok

/-- Settings that load are kept from then on. -/
theorem keptSettings_of_ok {settings : Settings} (h : s.effective none = .ok settings) :
    s.keptSettings =
      ⟨{ s with cache := some settings }, s.records (s.loadEntries none settings),
        .ok (s.cache.isSome, settings)⟩ := by
  obtain ⟨environment, envFile, cache, level, escaping⟩ := s
  cases cache with
  | some kept =>
    obtain rfl : kept = settings := Except.ok.inj h
    rfl
  | none =>
    change load _ [] = .ok settings at h
    unfold keptSettings
    dsimp only
    rw [h]
    exact run_eq (Logged.isPlain_single (isPlain_loadedEntry settings) _)

/-- Settings that do not load change nothing, and nothing is logged. -/
theorem keptSettings_of_error {failure : Failure} (h : s.effective none = .error failure) :
    s.keptSettings = ⟨s, [], .error failure⟩ := by
  obtain ⟨environment, envFile, cache, level, escaping⟩ := s
  cases cache with
  | some kept => exact nomatch h
  | none =>
    change load _ [] = .error failure at h
    unfold keptSettings
    dsimp only
    rw [h]

/-- Setting up logging with settings that load applies them, after they are kept if they are not
made from given fields. -/
theorem configure_of_ok {fields : Option (Entries Scalar)} {settings : Settings}
    (h : s.effective fields = .ok settings) :
    s.configure fields =
      ⟨{ s with
          cache := if fields.isNone then some settings else s.cache
          escaping := s.escaping || settings.safeLogging
          level := some (levelFor settings.logLevel) },
        s.records (s.loadEntries fields settings) ++
          { s with escaping := s.escaping || settings.safeLogging }.records
            (levelEntries settings.logLevel),
        .ok (levelFor settings.logLevel)⟩ := by
  cases fields with
  | some fields =>
    change s.load fields = .ok settings at h
    unfold configure
    dsimp only
    rw [h]
    dsimp only
    have hnone : s.records (s.loadEntries (some fields) settings) = [] := rfl
    rw [apply_eq, hnone, List.nil_append]
    rfl
  | none =>
    unfold configure
    dsimp only
    rw [keptSettings_of_ok h]
    unfold Turn.andThen
    dsimp only
    rw [apply_eq]
    dsimp only
    -- keeping the settings changes nothing about what the level emits
    rw [records_congr (s := { s with
          cache := some settings, escaping := s.escaping || settings.safeLogging })
        (t := { s with escaping := s.escaping || settings.safeLogging }) rfl rfl]
    rfl

/-- Setting up logging with settings that do not load changes nothing, and nothing is logged. -/
theorem configure_of_error {fields : Option (Entries Scalar)} {failure : Failure}
    (h : s.effective fields = .error failure) : s.configure fields = ⟨s, [], .error failure⟩ := by
  cases fields with
  | some fields =>
    change s.load fields = .error failure at h
    unfold configure
    dsimp only
    rw [h]
  | none =>
    unfold configure
    dsimp only
    rw [keptSettings_of_error h]
    rfl

/-! ### Steps -/

/-- Whether a step installs escaping: by itself, or by setting up logging with settings that ask
for it. -/
def installs (s : State) : Step → Bool
  | .installEscaping => true
  | .configure fields =>
    match s.effective fields with
    | .ok settings => settings.safeLogging
    | .error _ => false
  | _ => false

/-- The two ways in which a step installs escaping. -/
theorem installs_cases {step : Step} (h : s.installs step = true) :
    step = .installEscaping ∨
      ∃ fields settings, step = .configure fields ∧ s.effective fields = .ok settings ∧
        settings.safeLogging = true := by
  unfold installs at h
  split at h
  · exact .inl rfl
  · rename_i fields
    split at h
    · rename_i settings heffective
      exact .inr ⟨fields, settings, rfl, heffective, h⟩
    · exact nomatch h
  · exact nomatch h

omit [Settings.Loader] in
/-- A logged action leaves the state as it is, also when an entry cannot be emitted. -/
theorem state_run {α β : Type} (s : State) (action : Logged α) (f : α → β) :
    ((s.run action).map f).state = s := by
  unfold Turn.map run
  split <;> rfl

/-- The state that a step leads to, whatever it logs on the way. -/
def next (s : State) : Step → State
  | .setVariable name value => { s with environment := s.environment.put name value }
  | .unsetVariable name => { s with environment := s.environment.erase name }
  | .writeEnvFile text => { s with envFile := text }
  | .keptSettings =>
    match s.effective none with
    | .ok settings => { s with cache := some settings }
    | .error _ => s
  | .clearCache => { s with cache := none }
  | .installEscaping => { s with escaping := true }
  | .setLevel text => { s with level := some (levelFor text) }
  | .configure fields =>
    match s.effective fields with
    | .ok settings =>
      { s with
        cache := if fields.isNone then some settings else s.cache
        escaping := s.escaping || settings.safeLogging
        level := some (levelFor settings.logLevel) }
    | .error _ => s
  | .loadSettings _ | .log _ | .compile _ _ | .compileArguments _ _ | .annotate _ | .validate _ => s

/-- What a step does to the state does not depend on what it logs. -/
theorem state_step (s : State) (step : Step) : (s.step step).state = s.next step := by
  -- only steps about settings and levels change the state; the others run an action and log
  cases step with
  | keptSettings =>
    show s.keptSettings.state = _
    unfold next
    dsimp only
    cases h : s.effective none with
    | ok settings => rw [keptSettings_of_ok h]
    | error failure => rw [keptSettings_of_error h]
  | setLevel text =>
    show (s.setLevel text).state = _
    rw [setLevel_eq]
    rfl
  | configure fields =>
    show (s.configure fields).state = _
    unfold next
    dsimp only
    cases h : s.effective fields with
    | ok settings => rw [configure_of_ok h]
    | error failure => rw [configure_of_error h]
  | log entry => exact state_run s _ _
  | compile graph strict => exact state_run s _ _
  | compileArguments graph strict => exact state_run s _ _
  | annotate graph => exact state_run s _ _
  | validate graph => exact state_run s _ _
  | _ => rfl

/-- Escaping is on after a step if it was on before or if the step installs it. In particular no
step turns it off. -/
theorem escaping_step (s : State) (step : Step) :
    (s.step step).state.escaping = (s.escaping || s.installs step) := by
  rw [state_step]
  cases step with
  | keptSettings =>
    unfold next
    dsimp only
    split <;> exact (Bool.or_false _).symm
  | installEscaping => exact (Bool.or_true _).symm
  | configure fields =>
    unfold next installs
    dsimp only
    cases s.effective fields with
    | ok settings => rfl
    | error failure => exact (Bool.or_false _).symm
  | _ => exact (Bool.or_false _).symm

end FilterGraph.Session.State

namespace FilterGraph.Session

/-! ### Runs -/

variable [Settings.Loader]

/-- The state that steps lead to. -/
def after (s : State) (steps : List Step) : State :=
  steps.foldl (fun s step => (s.step step).state) s

variable (s : State) (steps : List Step)

/-- A run followed by another one is one run. -/
theorem after_append (rest : List Step) : after s (steps ++ rest) = after (after s steps) rest :=
  List.foldl_append

/-- The last step of a run is taken in the state that the others lead to. -/
theorem after_concat (step : Step) :
    after s (steps ++ [step]) = ((after s steps).step step).state := by
  rw [after_append]
  rfl

/-- The turn at an index of a run is the step there, in the state that the steps before lead to. -/
theorem turns_getElem? (i : Nat) :
    (turns s steps)[i]? = steps[i]?.map fun step => (after s (steps.take i)).step step := by
  induction steps generalizing s i with
  | nil => simp [turns]
  | cons step rest ih =>
    cases i with
    | zero => rfl
    | succ i =>
      rw [turns, List.getElem?_cons_succ, List.getElem?_cons_succ, ih]
      rfl

/-- The state at the next place of a run: that of the step there, if there is one. -/
theorem after_take_succ (i : Nat) :
    after s (steps.take (i + 1)) =
      steps[i]?.elim (after s (steps.take i)) fun step =>
        ((after s (steps.take i)).step step).state := by
  rw [List.take_add_one]
  cases steps[i]? with
  | none => rw [Option.toList_none, List.append_nil, Option.elim_none]
  | some step => rw [Option.toList_some, after_concat, Option.elim_some]

variable {s steps} in
/-- What holds at a place of a run holds at a later one if the steps between them preserve it. -/
theorem after_take_induction {P : State → Prop} {i j : Nat} (hij : i ≤ j)
    (hi : P (after s (steps.take i)))
    (hstep : ∀ k step, i ≤ k → k < j → steps[k]? = some step → P (after s (steps.take k)) →
      P ((after s (steps.take k)).step step).state) :
    P (after s (steps.take j)) := by
  induction hij with
  | refl => exact hi
  | step hik ih =>
    rename_i k
    have hk := ih fun l step hil hlk => hstep l step hil (Nat.lt_succ_of_lt hlk)
    rw [after_take_succ]
    cases hother : steps[k]? with
    | none => exact hk
    | some step => exact hstep k step hik (Nat.lt_succ_self k) hother hk

/-- No step from one place of a run to before another one writes anything. -/
def WritesNone {β : Type} (writes : State → Step → Option β) (s : State) (steps : List Step)
    (i j : Nat) : Prop :=
  ∀ k step, i ≤ k → k < j → steps[k]? = some step → writes (after s (steps.take k)) step = none

section Writes

variable {β : Type} {part : State → β} {writes : State → Step → Option β}

/-- A part of the state that only some steps write keeps its value where none of them is. -/
theorem WritesNone.part_eq
    (hwrites : ∀ s step, part (s.step step).state = (writes s step).getD (part s)) {i j : Nat}
    (hij : i ≤ j) (h : WritesNone writes s steps i j) :
    part (after s (steps.take j)) = part (after s (steps.take i)) := by
  refine after_take_induction (P := fun t => part t = part (after s (steps.take i))) hij rfl ?_
  intro k step hik hkj hstep hk
  rw [hwrites, h k step hik hkj hstep, Option.getD_none]
  exact hk

/-- A part of the state that only some steps write has the value that the last one of them wrote, or
else the value that it had at the start. -/
theorem last_write
    (hwrites : ∀ s step, part (s.step step).state = (writes s step).getD (part s)) (j : Nat) :
    (part (after s (steps.take j)) = part s ∧ WritesNone writes s steps 0 j) ∨
    ∃ i < j, ∃ step, steps[i]? = some step ∧
      writes (after s (steps.take i)) step = some (part (after s (steps.take j))) ∧
      WritesNone writes s steps (i + 1) j := by
  induction j with
  | zero => exact .inl ⟨rfl, fun k _ _ hk => absurd hk (Nat.not_lt_zero k)⟩
  | succ j ih =>
    by_cases hquiet : WritesNone writes s steps j (j + 1)
    · -- nothing is written at this place, so the last write is the one before
      have hextend : ∀ {i}, WritesNone writes s steps i j →
          WritesNone writes s steps i (j + 1) := by
        intro i h k step hik hkj
        rcases Nat.lt_succ_iff_lt_or_eq.1 hkj with hk | rfl
        · exact h k step hik hk
        · exact hquiet k step (Nat.le_refl k) hkj
      rw [hquiet.part_eq s steps hwrites (Nat.le_succ j)]
      rcases ih with ⟨hstart, hnone⟩ | ⟨i, hi, step, hstep, hwrite, hnone⟩
      · exact .inl ⟨hstart, hextend hnone⟩
      · exact .inr ⟨i, Nat.lt_succ_of_lt hi, step, hstep, hwrite, hextend hnone⟩
    · -- then it is the step at this place that writes
      unfold WritesNone at hquiet
      push Not at hquiet
      obtain ⟨k, step, hjk, hkj, hstep, hwrite⟩ := hquiet
      obtain rfl : k = j := by omega
      obtain ⟨value, hvalue⟩ := Option.ne_none_iff_exists'.1 hwrite
      refine .inr ⟨k, hkj, step, hstep, ?_, fun l _ hkl hlk => absurd hkl (by omega)⟩
      rw [after_take_succ, hstep, Option.elim_some, hwrites, hvalue, Option.getD_some]

end Writes

variable {s steps}

/-- Once escaping is on it stays on. -/
theorem escaping_of_le {i j : Nat} (hij : i ≤ j)
    (h : (after s (steps.take i)).escaping = true) : (after s (steps.take j)).escaping = true := by
  refine after_take_induction (P := fun t => t.escaping = true) hij h ?_
  intro k step _ _ _ hk
  rw [State.escaping_step, hk, Bool.true_or]

/-- After a step that installs escaping, escaping is on for the rest of the run. -/
theorem escaping_after_of_installs {i j : Nat} (hij : i < j) {step : Step}
    (hstep : steps[i]? = some step) (hinstalls : (after s (steps.take i)).installs step = true) :
    (after s (steps.take j)).escaping = true := by
  refine escaping_of_le hij ?_
  rw [after_take_succ, hstep, Option.elim_some, State.escaping_step, hinstalls, Bool.or_true]

end FilterGraph.Session
