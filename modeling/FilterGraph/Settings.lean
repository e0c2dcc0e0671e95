import FilterGraph.Entries
import FilterGraph.Failure
import FilterGraph.Scalar

/-!
# Settings

There are two settings: the level of the log, which is any text and stands at INFO by default, and
whether line breaks are escaped in the log, which they are by default. They are loaded from given
fields, from the environment variables and from an environment file. How this is done is up to a
loader: whoever works with loaded settings only goes by what a loader gives. The loader of the
library is in `FilterGraph.Settings.Lookup`.
-/

set_option autoImplicit false

namespace FilterGraph

/-- The settings for logging. -/
structure Settings where
  logLevel : String := "INFO"
  safeLogging : Bool := true
  deriving DecidableEq

namespace Settings

/-- Where settings are looked up. -/
structure Sources where
  fields : Entries Scalar
  environment : Entries String
  envFile : Option String

/-- A way to load settings from where they are looked up. -/
class Loader where
  /-- The settings that the sources give, or the failure if a value in them is no good. -/
  load : Sources → Except Failure Settings

end Settings

end FilterGraph
