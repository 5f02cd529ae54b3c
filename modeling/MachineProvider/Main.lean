import MachineProvider.Manager.Start

/-!
# The manager as a program

Reads the arguments, the environment and the configuration file, and reports how the manager ends.
-/

namespace MachineProvider.Manager

/-- The environment variables of the process that the manager looks at. -/
def processEnvironment : IO Environment := do
  let names := Argument.all.map (·.environmentVariable)
  let values ← names.mapM fun name => do return (name, ← IO.getEnv name)
  return .ofList (values.filterMap fun (name, value) => value.map fun v => (name, v))

/-- The bytes of a file, if it can be read. -/
def readFile? (path : String) : IO (Option ByteArray) := do
  try
    return some (← IO.FS.readBinFile path)
  catch _ => return none

/-- How the manager ends with the given words on its command line. -/
def endWith (env : Environment) (words : List String) : IO Ending := do
  match Request.read env words with
  | .error fault => return .usage fault
  | .ok .version => return .version
  | .ok .help => return .help
  | .ok (.run arguments) => return start arguments (← readFile? arguments.configPath)

/-- Runs the manager and gives its exit code. -/
def runProcess (words : List String) : IO UInt32 := do
  let env ← processEnvironment
  let ending ← endWith env words
  for line in ending.output env do
    IO.println line
  match ending.message? with
  | some message => IO.eprintln ("Error: " ++ message)
  | none => pure ()
  return ending.exitCode.toUInt32

end MachineProvider.Manager

def main (words : List String) : IO UInt32 :=
  MachineProvider.Manager.runProcess words
