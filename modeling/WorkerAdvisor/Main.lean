import WorkerAdvisor.Launch

/-!
The command: reads the settings from the environment and says what is launched, or why nothing is.
-/

set_option autoImplicit false

namespace WorkerAdvisor.Command

/-- The directory of the configuration that is used unless another is set. -/
def shippedDirectory : String := "config"

def variableName (name : String) : String := Text.upper (Settings.variableStart ++ name)

/-- The lines that describe a launch. -/
def launchLines (launch : Launch) : List String :=
  ["listening on " ++ launch.host ++ ":" ++ toString launch.port,
    "level of the server: " ++ launch.serverLevel,
    "level of the program: " ++ launch.programLevel]

/-- The name of the setting that a fault is in. -/
def faultySetting (error : FieldError) : String :=
  "invalid setting: " ++ String.intercalate "." (error.place.map fun
    | .name name => name
    | .position index => toString index)

def errorLines : LaunchError → List String
  | .invalidSettings errors => errors.map faultySetting
  | .unknownLevel name => [Launch.unknownLevelMessage name]

end WorkerAdvisor.Command

/-- Says what is launched in this environment, or why nothing is. -/
def main : IO UInt32 := do
  let given ← WorkerAdvisor.Settings.names.filterMapM fun name ↦ do
    let written := WorkerAdvisor.Command.variableName name
    return (← IO.getEnv written).map fun content ↦ (written, content)
  match WorkerAdvisor.Launch.ofEnvironment WorkerAdvisor.Command.shippedDirectory given with
  | .ok launch =>
    (WorkerAdvisor.Command.launchLines launch).forM IO.println
    return 0
  | .error error =>
    (WorkerAdvisor.Command.errorLines error).forM IO.eprintln
    return 1
