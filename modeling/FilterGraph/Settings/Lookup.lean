import FilterGraph.Settings
import FilterGraph.Settings.EnvFile

/-!
# The lookup of settings

Each setting is looked up on its own: among given fields first, then among the environment
variables, then in the environment file. Names are compared without regard to letter case. Of
several fields for one setting the first one counts, and of several variables the last one. This is
how the library loads its settings.
-/

set_option autoImplicit false

namespace FilterGraph.Settings

/-- The name of the variable for a setting, in small letters. -/
def variableName (name : SettingName) : String := "ffgraph_" ++ name.text

/-- The value of the last entry whose key is the given one in small letters. -/
def lastNamed? {α : Type} (name : String) (entries : Entries α) : Option α :=
  (entries.reverse.find? fun e => Text.lowered e.1 = name).map Prod.snd

/-- The value of the first entry whose key is the given one in small letters. -/
def firstNamed? {α : Type} (name : String) (entries : Entries α) : Option α :=
  (List.find? (fun e => Text.lowered e.1 = name) entries).map Prod.snd

/-- The value that the first source gives to a setting. -/
def Sources.lookup (sources : Sources) (name : SettingName) : Option Scalar :=
  let key := variableName name
  (firstNamed? name.text sources.fields).or <|
    ((lastNamed? key sources.environment).map .text).or <|
      (sources.envFile.bind fun file =>
        (lastNamed? key (EnvFile.read sources.environment file)).bind (·.map .text))

/-- The words for false. -/
def falseWords : List String := ["0", "off", "f", "false", "n", "no"]

/-- The words for true. -/
def trueWords : List String := ["1", "on", "t", "true", "y", "yes"]

/-- The level that a value gives: any text. -/
def readLevel : Scalar → Except SettingFault String
  | .text s => .ok s
  | _ => .error .notText

/-- The truth value that a whole number gives: only zero and one do. A number that does not fit
into 64 bits is not even looked at. -/
def readTruthNumber (n : Int) (fits : Bool) : Except SettingFault Bool :=
  if n = 0 then .ok false
  else if n = 1 then .ok true
  else .error (if fits then .notTruthText else .notTruthKind)

/-- The truth value that a value gives: a truth value itself, a word in any letter case, or one of
the numbers zero and one. -/
def readTruth : Scalar → Except SettingFault Bool
  | .bool b => .ok b
  | .text s =>
    let word := Text.lowered s
    if word ∈ falseWords then .ok false
    else if word ∈ trueWords then .ok true
    else .error .notTruthText
  | .int n => readTruthNumber n (-Int.pow 2 63 ≤ n && n < Int.pow 2 63)
  | .float x =>
    match x.integer? with
    | some n => readTruthNumber n (-Int.pow 2 63 < n && n < Int.pow 2 63)
    | none => .error .notTruthKind
  | _ => .error .notTruthKind

/-- Load the settings; if values are no good, all of them are reported. -/
def load (sources : Sources) : Except Failure Settings :=
  let level := (sources.lookup .logLevel).elim (.ok ({} : Settings).logLevel) readLevel
  let safe := (sources.lookup .safeLogging).elim (.ok ({} : Settings).safeLogging) readTruth
  match level, safe with
  | .ok logLevel, .ok safeLogging => .ok { logLevel, safeLogging }
  | .error fault, .ok _ => .error (.badSettings [(.logLevel, fault)])
  | .ok _, .error fault => .error (.badSettings [(.safeLogging, fault)])
  | .error fault, .error other =>
    .error (.badSettings [(.logLevel, fault), (.safeLogging, other)])

/-- The loader of the library. -/
instance : Loader where
  load := load

end FilterGraph.Settings
