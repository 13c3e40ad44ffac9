/-!
# Failed compilations

Why a dialog is not compiled at all. Faulty parts of a dialog are no such reason; they are left out.
-/

namespace DialogKit

inductive CompileFault where
  | notFound (id : String)
  | disabled (id : String)
  /-- Dialogs that show one another, from one of them back to itself. -/
  | cycle (chain : List String)
  deriving DecidableEq, Repr

namespace CompileFault

def showChain (chain : List String) : String :=
  String.intercalate " -> " chain

def message : CompileFault → String
  | .notFound id => "dialog '" ++ id ++ "' not found"
  | .disabled id => "dialog '" ++ id ++ "' is disabled"
  | .cycle chain => "show_dialog cycle: " ++ showChain chain

/-- The message with a hint. -/
def pretty : CompileFault → String
  | .notFound id => "Dialog '" ++ id ++ "' not found\nCheck the id against the loaded dialogs"
  | .disabled id =>
      "Dialog '" ++ id ++ "' is disabled\nSet `enabled: true` to allow opening it"
  | .cycle chain =>
      "Dialog cycle detected\n" ++ showChain chain ++
        "\nA show_dialog action must not lead back to a dialog on the path"

end CompileFault

end DialogKit
