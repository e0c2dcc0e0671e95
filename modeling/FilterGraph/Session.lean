import FilterGraph.Log.Compilation
import FilterGraph.Settings.Lookup

/-!
# Logging sessions

A session is a run of steps that set up logging and that compile and validate graphs. Its state is
what later steps can depend on: the environment variables and the environment file, the settings
that were loaded and kept, the level of the library's loggers, and whether line breaks are escaped.
A step gives the state after it, its answer, and the records that were emitted.

A record is emitted when its level is not below the level in force; as long as no level is set,
warnings and worse are emitted. Compiling and validating leave the state as it is.

Steps go by what the loader in force gives for settings, whichever loader this is.
-/

set_option autoImplicit false

namespace FilterGraph.Session

open FilterGraph.Log

/-- What the steps of a session depend on. -/
structure State where
  /-- The environment variables in the order in which they were first set. -/
  environment : Entries String := []
  /-- The text of the environment file, if there is one. -/
  envFile : Option String := none
  /-- The settings that are kept from an earlier step. -/
  cache : Option Settings := none
  /-- The level of the library's loggers, if one is set. -/
  level : Option Level := none
  /-- Whether line breaks in arguments are escaped. -/
  escaping : Bool := false
  deriving DecidableEq

/-- What a step is asked for. -/
inductive Step where
  | setVariable (name value : String)
  | unsetVariable (name : String)
  | writeEnvFile (text : Option String)
  | loadSettings (fields : Entries Scalar)
  | keptSettings
  | clearCache
  | installEscaping
  | setLevel (text : String)
  /-- Set up logging with settings made from the given fields, or else with the kept settings. -/
  | configure (fields : Option (Entries Scalar))
  | log (entry : Entry)
  | compile (graph : Graph) (strict : Bool)
  | compileArguments (graph : Graph) (strict : Bool)
  | annotate (graph : Graph)
  | validate (graph : Graph)

/-- What a step answers when it succeeds. -/
inductive Answer where
  | done
  | text (text : String)
  | texts (texts : List String)
  | annotated (command : AnnotatedCommand)
  | report (report : Report)
  | settings (settings : Settings)
  /-- Settings, with whether they had been kept from before. -/
  | kept (before : Bool) (settings : Settings)
  | level (level : Level)

/-- A state, the records emitted on the way to it, and an outcome. -/
structure Turn (α : Type) where
  state : State
  records : List Record
  outcome : Except Failure α

/-- Go on from a turn, unless it failed. -/
def Turn.andThen {α β : Type} (turn : Turn α) (next : α → State → Turn β) : Turn β :=
  match turn.outcome with
  | .ok a =>
    let after := next a turn.state
    { after with records := turn.records ++ after.records }
  | .error failure => ⟨turn.state, turn.records, .error failure⟩

/-- Change the outcome of a turn that did not fail. -/
def Turn.map {α β : Type} (f : α → β) (turn : Turn α) : Turn β :=
  ⟨turn.state, turn.records, turn.outcome.map f⟩

variable [Settings.Loader]

namespace State

/-- Whether a record of some level is emitted. -/
def admits (s : State) (level : Level) : Bool :=
  (s.level.getD .warning).severity ≤ level.severity

/-- The records that are emitted for an entry. -/
def emit (s : State) (e : Entry) : Except Failure (List Record) :=
  if isOwnLogger e.logger && s.admits e.level then
    match e.record s.escaping with
    | .ok record => .ok [record]
    | .error fault => .error (.badTemplate fault)
  else .ok []

/-- The records that are emitted for some entries. -/
def emitAll (s : State) (entries : List Entry) : Except Failure (List Record) :=
  (entries.mapM s.emit).map List.flatten

/-- Run a logged action in a state, which it leaves as it is. -/
def run {α : Type} (s : State) (action : Logged α) : Turn α :=
  match s.emitAll action.entries with
  | .ok records => ⟨s, records, action.outcome⟩
  | .error failure => ⟨s, [], .error failure⟩

/-- Load settings from the given fields, the environment and the environment file. -/
def load (s : State) (fields : Entries Scalar) : Except Failure Settings :=
  Settings.Loader.load { fields, environment := s.environment, envFile := s.envFile }

/-- The entry for settings that have been loaded to be kept. -/
def loadedEntry (settings : Settings) : Entry where
  logger := settingsLogger
  level := .debug
  template := "[FFGRAPH-CONFIG] Loaded settings: log_level=%s safe_logging=%s"
  arguments := [.text settings.logLevel, .bool settings.safeLogging]

/-- The kept settings, which are loaded if there are none; true stands for kept from before. -/
def keptSettings (s : State) : Turn (Bool × Settings) :=
  match s.cache with
  | some settings => ⟨s, [], .ok (true, settings)⟩
  | none =>
    match s.load [] with
    | .error failure => ⟨s, [], .error failure⟩
    | .ok settings =>
      { s with cache := some settings }.run
        ⟨[loadedEntry settings], .ok (false, settings)⟩

/-- The entry for a level that does not exist. -/
def unknownLevelEntry (text : String) : Entry where
  logger := setupLogger
  level := .warning
  template := "Invalid log level '%s', using INFO"
  arguments := [.text text]

/-- Set the level that a text names, or else INFO. That there is no such level is logged while the
old level is still in force. -/
def setLevel (s : State) (text : String) : Turn Level :=
  match Level.named? text with
  | some level => ⟨{ s with level := some level }, [], .ok level⟩
  | none =>
    (s.run ⟨[unknownLevelEntry text], .ok Level.info⟩).andThen fun level s =>
      ⟨{ s with level := some level }, [], .ok level⟩

/-- Set up logging: escaping is turned on if the settings ask for it, and never turned off. -/
def apply (s : State) (settings : Settings) : Turn Level :=
  { s with escaping := s.escaping || settings.safeLogging }.setLevel settings.logLevel

/-- Set up logging with settings made from the given fields, or else with the kept ones. -/
def configure (s : State) (fields : Option (Entries Scalar)) : Turn Level :=
  match fields with
  | some fields =>
    match s.load fields with
    | .ok settings => s.apply settings
    | .error failure => ⟨s, [], .error failure⟩
  | none => s.keptSettings.andThen fun kept s => s.apply kept.2

/-- One step of a session. -/
def step (s : State) : Step → Turn Answer
  | .setVariable name value =>
    ⟨{ s with environment := s.environment.put name value }, [], .ok .done⟩
  | .unsetVariable name => ⟨{ s with environment := s.environment.erase name }, [], .ok .done⟩
  | .writeEnvFile text => ⟨{ s with envFile := text }, [], .ok .done⟩
  | .loadSettings fields => ⟨s, [], (s.load fields).map .settings⟩
  | .keptSettings => s.keptSettings.map fun kept => .kept kept.1 kept.2
  | .clearCache => ⟨{ s with cache := none }, [], .ok .done⟩
  | .installEscaping => ⟨{ s with escaping := true }, [], .ok .done⟩
  | .setLevel text => (s.setLevel text).map .level
  | .configure fields => (s.configure fields).map fun _ => .done
  | .log entry => (s.run (Logged.log [entry])).map fun _ => .done
  | .compile graph strict => (s.run (Log.command graph strict)).map .text
  | .compileArguments graph strict => (s.run (Log.arguments graph strict)).map .texts
  | .annotate graph => (s.run (Log.annotate graph)).map .annotated
  | .validate graph => (s.run (Log.validate graph)).map .report

end State

/-- The turns of a session from a state on, one for each step. -/
def turns : State → List Step → List (Turn Answer)
  | _, [] => []
  | s, step :: rest =>
    let turn := s.step step
    turn :: turns turn.state rest

end FilterGraph.Session
