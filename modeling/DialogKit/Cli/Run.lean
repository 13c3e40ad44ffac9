import DialogKit.Cli.Arguments
import DialogKit.Cli.Load
import DialogKit.Definition.Record
import DialogKit.Engine.Basic

/-!
# Running the program

What the program prints and how it ends, from its arguments and the files that it reads. It ends
with 0, with 1 if a command fails, and with 2 if the arguments are refused.
-/

namespace DialogKit.Cli

structure Result where
  code : UInt32
  output : String := ""
  errors : String := ""

/-- The ids of a catalog, one a line. -/
def listing (catalog : Catalog) : String :=
  String.join (catalog.ids.map fun id ↦
    id ++ (if catalog.isEnabled id then "" else " (disabled)") ++ "\n")

/-- A report, with a line for each issue and one for how to mend it. -/
def reportText (report : Validation.Report) : String :=
  String.join (report.issues.map fun issue ↦
    issue.text ++ "\n  suggestion: " ++ issue.suggestion ++ "\n") ++ report.summary ++ "\n"

/-- The engine over the dialogs of a directory; it has neither addons nor handlers. -/
def engineOver (settings : Settings) (catalog : Catalog) : Engine Empty Unit Empty Unit :=
  Engine.build { settings, catalog } ()

/-- The output of a command, and how it fails after that. -/
def runCommand (settings : Settings) (catalog : Catalog) : Command → String × Option Failure
  | .list _ => (listing catalog, none)
  | .validate _ strict =>
      let report := (engineOver settings catalog).validate
      (reportText report,
        if strict && report.hasErrors then some (.invalid report.summary) else none)
  | .show _ id =>
      match ((engineOver settings catalog).opening id).result with
      | .ok dialog => (dialog.toRecord.render 0 ++ "\n", none)
      | .error fault => ("", some (.engine fault))

def Result.of : String × Option Failure → Result
  | (output, none) => { code := 0, output }
  | (output, some failure) =>
      { code := 1, output, errors := "error: " ++ failure.message ++ "\n" }

def runInvocation (disk : Disk) (invocation : Invocation) : Result :=
  let loaded := do
    let settings ← loadSettings disk invocation.settings
    let catalog ← loadDirectory disk invocation.command.dir
    return runCommand settings catalog invocation.command
  match loaded with
  | .ok result => .of result
  | .error failure => .of ("", some failure)

/-- Runs the program. -/
def run (disk : Disk) (args : List String) : Result :=
  match wish args with
  | .run invocation => runInvocation disk invocation
  | .print text => { code := 0, output := text }
  | .refused => { code := 2 }

end DialogKit.Cli
