import DialogKit.Log

/-!
# Validation reports

What the validator finds in dialogs, in the order in which it finds it. A finding never stops
anything by itself; whether errors keep a dialog from being opened is up to a policy.
-/

namespace DialogKit

namespace Validation

inductive Severity where
  /-- A hint about style or migration. -/
  | info
  /-- Probably not intended, but the dialog still works. -/
  | warning
  /-- The dialog will not behave as written. -/
  | error
  deriving DecidableEq, Repr

def Severity.name : Severity → String
  | .info => "info"
  | .warning => "warning"
  | .error => "error"

def Severity.title : Severity → String
  | .info => "INFO"
  | .warning => "WARNING"
  | .error => "ERROR"

def Severity.level : Severity → Log.Level
  | .info => .info
  | .warning => .warn
  | .error => .error

structure Issue where
  severity : Severity
  dialog : String
  /-- The input at fault, by its id, or by its place if it has none. -/
  input : Option String
  message : String
  /-- How to mend it. -/
  suggestion : String
  deriving DecidableEq, Repr

/-- The dialog, and the input if there is one. -/
def Issue.location (i : Issue) : String :=
  match i.input with
  | some input => i.dialog ++ " -> " ++ input
  | none => i.dialog

def Issue.text (i : Issue) : String :=
  i.severity.title ++ " [" ++ i.location ++ "]: " ++ i.message

structure Report where
  issues : List Issue
  deriving DecidableEq, Repr

namespace Report

def empty : Report := ⟨[]⟩

def count (r : Report) (severity : Severity) : Nat :=
  (r.issues.filter fun i ↦ i.severity == severity).length

def hasErrors (r : Report) : Bool :=
  r.issues.any fun i ↦ i.severity == .error

def isClean (r : Report) : Bool :=
  r.issues.isEmpty

def forDialog (r : Report) (id : String) : Report :=
  ⟨r.issues.filter fun i ↦ i.dialog == id⟩

def summary (r : Report) : String :=
  toString (r.count .error) ++ " errors, " ++ toString (r.count .warning) ++ " warnings, " ++
    toString (r.count .info) ++ " info messages"

/-- The event that reports an issue. -/
def issueEvent (i : Issue) : Log.Event where
  level := i.severity.level
  target := "dialog_config::validate"
  message := i.message
  fields := [.bare "location" i.location, .quoted "suggestion" i.suggestion]

/-- Reports every issue and a summary. -/
def log (r : Report) : Logged Unit :=
  if r.isClean then
    Log.emit .info "dialog_config::validate" "all dialog configurations are valid"
  else do
    r.issues.forM fun i ↦ Journal.note (issueEvent i)
    Log.emit .info "dialog_config::validate" ("dialog validation summary: " ++ r.summary)

end Report

/-- Whether errors keep a dialog from being opened. -/
inductive Policy where
  /-- Issues are only reported. -/
  | advisory
  /-- A dialog with errors is refused. -/
  | blockOnError
  deriving DecidableEq, Repr

def Policy.name : Policy → String
  | .advisory => "advisory"
  | .blockOnError => "block_on_error"

def Policy.blocks (p : Policy) (r : Report) : Bool :=
  p == .blockOnError && r.hasErrors

end Validation

end DialogKit
