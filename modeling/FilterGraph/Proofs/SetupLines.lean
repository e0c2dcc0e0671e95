import FilterGraph.Proofs.LogLines

/-!
# The log while it is set up

Setting up logging has three effects, in this order: the settings are loaded and announced unless
they are given or kept from before, escaping is turned on if they ask for it, and the level is set.
So even with settings that ask for escaping, the announcement comes before there is any, and it
holds the text for the level as it is. All other records of the set-up are on one line, and
`State.isOneLine_configure_iff` says exactly when the announcement does not spoil this.

It does when the level in force admits the announcement and the text has a line break
(`announcement_on_two_lines`).
-/

set_option autoImplicit false

namespace FilterGraph.Session

open FilterGraph.Log FilterGraph.Text

namespace State

variable {s : State}

/-- Records for debugging are only let through at the lowest level. -/
theorem admits_debug_iff : s.admits .debug = true ↔ s.level = some .debug := by
  unfold admits
  cases s.level with
  | none => decide
  | some level => cases level <;> decide

/-- Without escaping, settings are announced on one line exactly when the text for the level is. -/
theorem isLine_loadedEntry_iff {settings : Settings} {r : Record}
    (hr : (loadedEntry settings).record false = .ok r) :
    IsLine r.message.toList ↔ IsLine settings.logLevel.toList := by
  rw [(isPlain_loadedEntry settings).record_isLine_iff hr]
  constructor
  · intro harguments
    exact harguments (.text settings.logLevel) List.mem_cons_self
  · intro hlevel
    refine List.forall_mem_cons.2 ⟨hlevel, List.forall_mem_singleton.2 ?_⟩
    exact Scalar.isLine_shown (.bool settings.safeLogging)

/-- The announcement of settings is on one line unless it is emitted without escaping and the text
for the level has a line break. -/
theorem isLine_announcement_iff (settings : Settings) :
    (∀ r ∈ s.records [loadedEntry settings], IsLine r.message.toList) ↔
      (s.level = some .debug → s.escaping = true ∨ IsLine settings.logLevel.toList) := by
  have hplain := isPlain_loadedEntry settings
  obtain ⟨record, hrecord⟩ := hplain.exists_record s.escaping
  have hown : isOwnLogger settingsLogger = true := by decide
  have hrecords : s.records [loadedEntry settings] =
      if s.admits .debug then [record] else [] := records_single hown hrecord
  -- below the lowest level there is no record at all
  by_cases hlevel : s.level = some .debug
  · rw [hrecords, if_pos (admits_debug_iff.2 hlevel), List.forall_mem_singleton]
    cases hescaping : s.escaping with
    | true =>
      rw [hescaping] at hrecord
      have hline := Entry.record_isLine hplain.template.1 hrecord
      simp [hline]
    | false =>
      rw [hescaping] at hrecord
      rw [isLine_loadedEntry_iff hrecord]
      simp [hlevel]
  · rw [hrecords, if_neg (mt admits_debug_iff.1 hlevel)]
    simp [hlevel]

/-- **Setting up logging with escaping is safe but for the announcement of settings.** All other
records of the set-up are on one line, whatever the text for the level is. All records are, exactly
if no settings are announced, or escaping was on before, or the text for the level is on one line;
and settings are announced if they are loaded by the set-up itself and the level in force before is
the lowest one. -/
theorem isOneLine_configure_iff [Settings.Loader] {fields : Option (Entries Scalar)}
    {settings : Settings} (heffective : s.effective fields = .ok settings)
    (hsafe : settings.safeLogging = true) :
    (∀ r ∈ (s.step (.configure fields)).records,
      r.logger ≠ settingsLogger → isOneLine r.message = true) ∧
    ((∀ r ∈ (s.step (.configure fields)).records, isOneLine r.message = true) ↔
      (fields = none ∧ s.cache = none ∧ s.level = some .debug →
        s.escaping = true ∨ isOneLine settings.logLevel = true)) := by
  have hor : (s.escaping || settings.safeLogging) = true := by rw [hsafe, Bool.or_true]
  have hinstalls : s.installs (.configure fields) = true := by
    unfold installs
    dsimp only
    rw [heffective]
    exact hsafe
  simp only [isOneLine_iff]
  refine ⟨fun r hr => isLine_installing hinstalls hr, ?_⟩
  have hrecords : (∀ r ∈ (s.step (.configure fields)).records, IsLine r.message.toList) ↔
      ∀ r ∈ s.records (s.loadEntries fields settings), IsLine r.message.toList := by
    show (∀ r ∈ (s.configure fields).records, IsLine r.message.toList) ↔ _
    rw [configure_of_ok heffective]
    dsimp only
    rw [List.forall_mem_append, and_iff_left]
    -- the level is set last, with escaping on
    exact fun r hr => isLine_records hor (isPlain_levelEntries settings.logLevel) hr
  rw [hrecords]
  unfold loadEntries
  -- given and kept settings are not announced, so there is nothing to show for them
  by_cases hloads : fields = none ∧ s.cache = none
  · obtain ⟨rfl, hcache⟩ := hloads
    rw [hcache]
    simpa using isLine_announcement_iff settings
  · have hnone : ¬ (fields.isNone && s.cache.isNone) = true := by
      rw [Bool.and_eq_true, Option.isNone_iff_eq_none, Option.isNone_iff_eq_none]
      exact hloads
    have hempty : s.records [] = [] := rfl
    rw [if_neg hnone, hempty]
    constructor
    · rintro - ⟨hfields, hcache, -⟩
      exact absurd ⟨hfields, hcache⟩ hloads
    · exact fun _ => nofun

end State

/-- A state in which the lowest level is in force. -/
def talkativeState : State := { level := some .debug }

/-- Fields for settings whose text for the level would add a line of its own to the log. -/
def forgingFields : Entries Scalar := [("log_level", .text "LOUD\nall is well")]

/-- Given settings are not announced, and the record about their level is on one line. -/
theorem isOneLine_forgingFields :
    talkativeState.effective (some forgingFields) = .ok { logLevel := "LOUD\nall is well" } ∧
      forgingRecord ∈ (talkativeState.step (.configure (some forgingFields))).records ∧
      ∀ r ∈ (talkativeState.step (.configure (some forgingFields))).records,
        isOneLine r.message = true := by
  have heffective : talkativeState.effective (some forgingFields) =
      .ok { logLevel := "LOUD\nall is well" } := by decide +kernel
  refine ⟨heffective, ?_, (State.isOneLine_configure_iff heffective rfl).2.2 ?_⟩
  · show _ ∈ (talkativeState.configure (some forgingFields)).records
    rw [State.configure_of_ok heffective]
    refine List.mem_append_right _ ?_
    unfold State.levelEntries
    rw [if_neg (by decide +kernel), State.records_single (by decide)
      record_unknownLevelEntry_forging]
    exact List.mem_singleton_self forgingRecord
  · rintro ⟨hgiven, -, -⟩
    exact nomatch hgiven

/-- A run after which settings would be announced, with a text for the level that has a line
break. -/
def announcingRun : List Step :=
  [.setLevel "DEBUG", .setVariable "FFGRAPH_LOG_LEVEL" "INFO\nall is well"]

/-- The settings that are loaded after the run. -/
def announcedSettings : Settings where
  logLevel := "INFO\nall is well"
  safeLogging := true

/-- The announcement of these settings as it is emitted. -/
def announcingRecord : Record where
  logger := settingsLogger
  level := .debug
  message := "[FFGRAPH-CONFIG] Loaded settings: log_level=INFO\nall is well safe_logging=True"

/-- Setting up logging after the run announces settings on two lines, although they ask for
escaping. -/
theorem announcement_on_two_lines :
    (after {} announcingRun).effective none = .ok announcedSettings ∧
      announcedSettings.safeLogging = true ∧
      announcingRecord ∈ ((after {} announcingRun).step (.configure none)).records ∧
      isOneLine announcingRecord.message = false := by
  have heffective : (after {} announcingRun).effective none = .ok announcedSettings := by
    decide +kernel
  have hrecord : (State.loadedEntry announcedSettings).record false = .ok announcingRecord := rfl
  have hstate : (after {} announcingRun).escaping = false ∧
      (after {} announcingRun).cache = none ∧
      (after {} announcingRun).admits .debug = true := by decide +kernel
  obtain ⟨hescaping, hcache, hadmits⟩ := hstate
  have hannounced : (after {} announcingRun).records
      ((after {} announcingRun).loadEntries none announcedSettings) = [announcingRecord] := by
    unfold State.loadEntries
    rw [hcache]
    exact (State.records_single (by decide) (hescaping ▸ hrecord)).trans (if_pos hadmits)
  refine ⟨heffective, rfl, ?_, by decide⟩
  show _ ∈ ((after {} announcingRun).configure none).records
  rw [State.configure_of_ok heffective]
  dsimp only
  rw [hannounced]
  exact List.mem_append_left _ (List.mem_singleton_self announcingRecord)

end FilterGraph.Session
