import WorkerAdvisor.Access.Route
import WorkerAdvisor.Settings
import WorkerAdvisor.Text.Quoted
import WorkerAdvisor.Text.Uppercase

/-!
Launching the server: the level at which it logs, and the address at which it listens.
-/

set_option autoImplicit false

namespace WorkerAdvisor

/-- What is started: where it listens, and at which levels the server and the program log. -/
structure Launch where
  host : String
  port : Int
  serverLevel : String
  programLevel : String
  urlToken : String
  deriving DecidableEq, Repr

/-- Why nothing is started. -/
inductive LaunchError
  | invalidSettings (errors : List FieldError)
  | unknownLevel (name : String)
  deriving DecidableEq, Repr

namespace Launch

/-- The levels by the names that can be given for them. -/
def levels : List (String × String) :=
  [("CRITICAL", "CRITICAL"), ("FATAL", "CRITICAL"), ("ERROR", "ERROR"), ("WARN", "WARNING"),
    ("WARNING", "WARNING"), ("INFO", "INFO"), ("DEBUG", "DEBUG"), ("NOTSET", "NOTSET")]

def unknownLevelMessage (name : String) : String := "Unknown level: " ++ Text.quoted name

/-- The launch with some settings. The name of the level has no letter case. -/
def ofSettings (settings : Settings) : Except LaunchError Launch :=
  let name := Text.upper settings.logLevel
  match levels.lookup name with
  | none => .error (.unknownLevel name)
  | some level =>
    .ok { host := settings.host, port := settings.port, serverLevel := Text.lower settings.logLevel,
          programLevel := level, urlToken := settings.urlToken }

/-- The launch in an environment. -/
def ofEnvironment (configDirectory : String) (environment : List (String × String)) : Except LaunchError Launch :=
  match Settings.read configDirectory environment [] with
  | .error errors => .error (.invalidSettings errors)
  | .ok settings => ofSettings settings

def respond (launch : Launch) (request : Access.Request) : Access.Response :=
  Access.guarded launch.urlToken Access.respond request

end Launch

end WorkerAdvisor
