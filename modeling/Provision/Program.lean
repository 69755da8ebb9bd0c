/-
The program as a whole: what a command line and an environment lead to.
-/
import Provision.CommandLine
import Provision.Endpoint
import Provision.Settings.File

namespace Provision

/-- What a run depends on besides its command line. -/
structure Environment where
  /-- The value of `Endpoint.variableName`. -/
  endpoint : Option String := none
  /-- The bytes of the settings file at a path, or at the usual place. -/
  file : Option String → Option (List UInt8) := fun _ => none

/-- How a run ends. -/
structure Exit where
  code : Nat := 0
  stdout : List String := []
  stderr : List String := []
  /-- The run has opened its log file. -/
  logged : Bool := true
  deriving DecidableEq, Repr

/-- What a run has to do. -/
inductive Task where
  /-- Nothing: it is over. -/
  | exit (e : Exit)
  | headless (settings : Settings) (endpoint : String) (filling : Headless.Filling)
  | interactive (settings : Settings) (endpoint : String)
  deriving DecidableEq, Repr

namespace Program

/-- The end of a run whose command line stops it. -/
def stopped : CommandLine.Stop → Exit
  | .help => { stdout := CommandLine.helpLines, logged := false }
  | .version => { stdout := CommandLine.versionLines, logged := false }
  | .fault fault => { code := 2, stderr := fault.text.splitOn "\n", logged := false }

/-- What a run has to do.  The settings come from the file that the command line
names, and the endpoint is checked before anything else is done. -/
def start (args : List String) (env : Environment) : Task :=
  match CommandLine.read args with
  | .error stop => .exit (stopped stop)
  | .ok arguments =>
    let settings := Settings.ofFile (env.file arguments.config)
    match Endpoint.resolve arguments.endpoint env.endpoint settings.endpoint with
    | .error e => .exit { code := 2, stderr := ["❌ " ++ e.message] }
    | .ok endpoint =>
      if arguments.headless then .headless settings endpoint.url arguments.filling
      else .interactive settings endpoint.url

/-- The end of a headless run.  One that did not succeed says where its log is. -/
def finished (logFile : String) (outcome : Headless.Outcome) : Exit :=
  if outcome = .complete then {} else { code := 1, stderr := ["Details in " ++ logFile] }

end Program

end Provision
