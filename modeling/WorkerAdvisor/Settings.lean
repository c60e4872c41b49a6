import WorkerAdvisor.Field.Integer
import WorkerAdvisor.Text.Lowercase
import WorkerAdvisor.Text.Split

/-!
Settings of the server.

Each setting has a usual value, which an environment variable can replace, which in turn an argument can
replace; a replaced value is not looked at. The names of environment variables have no letter case.
-/

set_option autoImplicit false

namespace WorkerAdvisor

/-- The settings of the server. -/
structure Settings where
  configDirectory : String
  host : String
  port : Int
  urlToken : String
  logLevel : String
  deriving DecidableEq, Repr

namespace Settings

/-- What the names of the environment variables begin with. -/
def variableStart : String := "edgelint_"

def names : List String := ["config_dir", "host", "port", "url_token", "log_level"]

/-- The usual settings, given the directory of the configuration. -/
def usual (configDirectory : String) : Settings :=
  { configDirectory, host := "0.0.0.0", port := 8000, urlToken := "", logLevel := "INFO" }

/-- The root of a path: nothing, one slash, or two if there are exactly two. -/
def pathRoot (path : List Char) : List Char :=
  match (path.takeWhile (· == '/')).length with
  | 0 => []
  | 2 => ['/', '/']
  | _ => ['/']

/-- A path without empty segments, segments that stay where they are, and slashes at its end. -/
def normalizePath (path : String) : String :=
  let segments := (Text.splitOn '/' path.toList).filter fun segment ↦ segment ≠ [] ∧ segment ≠ ['.']
  let whole := pathRoot path.toList ++ ['/'].intercalate segments
  if whole.isEmpty then "." else String.ofList whole

def pathField (place : List FieldStep) : Value → Checked String
  | .text path => .ok (normalizePath path)
  | _ => .error [⟨place, .notPath⟩]

/-- The value of a setting that was given by an argument or, failing that, by the environment. -/
def given? (environment : List (String × String)) (arguments : List (String × Value)) (name : String) :
    Option Value :=
  match Value.field? arguments name with
  | some value => some value
  | none =>
    ((environment.reverse.find? fun entry ↦ Text.lower entry.1 == variableStart ++ name).map (·.2)).map .text

/-- One setting: its usual value, unless another was given. -/
def setting {α : Type} (environment : List (String × String)) (arguments : List (String × Value))
    (name : String) (usual : α) (check : List FieldStep → Value → Checked α) : Checked α :=
  match given? environment arguments name with
  | none => .ok usual
  | some value => check [.name name] value

/-- The faults of arguments that are no settings. -/
def unknownArguments (arguments : List (String × Value)) : List FieldError :=
  ((arguments.map (·.1)).eraseDups.filter fun name ↦ !names.contains name).map fun name ↦
    ⟨[.name name], .unknownField⟩

/-- The settings that an environment and arguments give. -/
def read (configDirectory : String) (environment : List (String × String))
    (arguments : List (String × Value)) : Checked Settings :=
  let usual := usual configDirectory
  let directory := setting environment arguments "config_dir" usual.configDirectory pathField
  let host := setting environment arguments "host" usual.host Field.text
  let port := setting environment arguments "port" usual.port Field.integer
  let token := setting environment arguments "url_token" usual.urlToken Field.text
  let level := setting environment arguments "log_level" usual.logLevel Field.text
  match directory, host, port, token, level, unknownArguments arguments with
  | .ok configDirectory, .ok host, .ok port, .ok urlToken, .ok logLevel, [] =>
    .ok { configDirectory, host, port, urlToken, logLevel }
  | _, _, _, _, _, unknown =>
    .error (directory.errors ++ host.errors ++ port.errors ++ token.errors ++ level.errors ++ unknown)

end Settings

end WorkerAdvisor
