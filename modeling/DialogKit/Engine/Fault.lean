import DialogKit.Addon.Basic
import DialogKit.Command.Runner
import DialogKit.Document.Source

/-!
# Failures of an engine

Why an engine does not do what it is asked for. The message is for the player or admin who asked;
the pretty form adds a hint where there is one.
-/

namespace DialogKit

inductive EngineFault where
  | compile (fault : CompileFault)
  /-- Validation found errors, and the policy refuses the dialog. -/
  | blocked (id : String) (errors : Nat)
  | command (fault : Command.Fault)
  | key (fault : Key.Fault)
  | addon (fault : AddonFault)
  | source (fault : Source.Fault)
  | noDefaultDialog
  deriving DecidableEq, Repr

namespace EngineFault

def message : EngineFault → String
  | .compile fault => fault.message
  | .blocked id errors =>
      "dialog '" ++ id ++ "' is blocked by " ++ toString errors ++ " validation error(s)"
  | .command fault => fault.message
  | .key fault => fault.message
  | .addon fault => fault.message
  | .source fault => fault.message
  | .noDefaultDialog => "no default dialog configured"

/-- The message with a hint. -/
def pretty : EngineFault → String
  | .compile fault => fault.pretty
  | .command fault => fault.pretty
  | .source fault => fault.pretty
  | fault@(.blocked id _) =>
      fault.message ++ "\nRun validation on '" ++ id ++
        "' and fix the reported errors, or use the advisory policy"
  | fault => fault.message

end EngineFault

end DialogKit
