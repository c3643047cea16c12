/-
This file defines the settings that come from the environment, and the levels of logging.

Three variables count: the directory of the projects' credentials, the project to use when none
is named, and the level of logging. Each has a default.
-/

import DocQuery.Credentials.FilePath
import DocQuery.Text.Uppercase

namespace DocQuery

/-! ### Settings -/

/-- The variables of an environment. -/
abbrev Environment := List (Text × Text)

/-- Where credentials lie, which project to use by default, and how much to log. -/
structure Settings where
  directory : FilePath
  defaultProject : Option Text
  logLevel : Text
  deriving DecidableEq, Repr

namespace Settings

/-- The value of a variable, or its default. -/
def variableOf (name default : Text) (environment : Environment) : Text :=
  (environment.lookup name).getD default

/-- The settings of an environment. An empty default project is none. -/
def ofEnvironment (environment : Environment) : Settings where
  directory := .ofText (variableOf "FQL_PROJECTS_DIR" "projects" environment)
  defaultProject :=
    match environment.lookup ("FQL_PROJECT" : Text) with
    | some name => if name = [] then none else some name
    | none => none
  logLevel := Text.uppercase (variableOf "FQL_LOG_LEVEL" "WARNING" environment)

/-- The project to use when none is named. -/
def currentProject (settings : Settings) : Except Failure Text :=
  match settings.defaultProject with
  | some name => .ok name
  | none => .error (.connection (.text "") .noProject)

end Settings

/-! ### Levels of logging -/

namespace LogLevel

/-- The level for warnings, which is the default. -/
def warning : Nat := 30

def named : List (Text × Nat) :=
  [("CRITICAL", 50), ("FATAL", 50), ("ERROR", 40), ("WARNING", warning), ("WARN", warning),
    ("INFO", 20), ("DEBUG", 10), ("NOTSET", 0)]

/-- Names of a logging system that stand for something other than a level: each with the failure
of setting it as a level. -/
def misnamed : List (Text × Failure) :=
  [("BASIC_FORMAT", .foreign .refused "not the name of a level"),
    ("_STYLES", .foreign .unsuitable "not a level")]

/-- The level of a name, in letters of either case. An unknown name means the default. -/
def ofName (name : Text) : Except Failure Nat :=
  let known := Text.uppercase name
  match misnamed.lookup known with
  | some failure => .error failure
  | none => .ok ((named.lookup known).getD warning)

end LogLevel

end DocQuery
