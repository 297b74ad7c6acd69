import FederatedLearning.Round.Evaluation

/-!
# Command line

Runs one round of federated evaluation.  The configuration is read from the file
named by the argument or by the environment, and the results are printed.
-/

namespace FederatedLearning.CommandLine

/-- The environment variable that names the configuration when no argument does. -/
def configVariable : String := "NODE_CONFIG"

def contents? (path : String) : IO (Option String) := do
  try
    return some (← IO.FS.readFile path)
  catch _ =>
    return none

/-- A line for every named result: its number, or a dash for what is not one. -/
def resultLines : HostValue → List String
  | .record members =>
      members.elements.map fun (name, item) =>
        Record.listedName name ++ ": " ++ (item.float?.map toString).getD "-"
  | _ => []

def reportLines (report : RoundReport) : List String :=
  ("participants: " ++ report.participants.repr) ::
    ((resultLines report.outputs).map ("output " ++ ·) ++
      (resultLines report.metrics).map ("metric " ++ ·))

end FederatedLearning.CommandLine

open FederatedLearning

def main (arguments : List String) : IO UInt32 := do
  let environment ← IO.getEnv CommandLine.configVariable
  let contents ← match arguments.head?.or environment with
    | some path => CommandLine.contents? path
    | none => pure none
  match RoundConfig.load arguments.head? environment fun _ => contents with
  | .error error =>
      IO.eprintln error.message
      return 1
  | .ok config =>
      let drawn ← IO.rand 0 (UInt64.size - 1)
      let seed := config.seed.getD drawn.toUInt64
      match (Round.evaluate config .scrambled seed .empty).1 with
      | .error error =>
          IO.eprintln error.message
          return 1
      | .ok report =>
          for line in CommandLine.reportLines report do
            IO.println line
          return 0
