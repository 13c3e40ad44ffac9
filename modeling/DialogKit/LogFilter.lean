import DialogKit.Text.Casing

/-!
# Log filters

Which log events a run shows. A filter is given as a text of its own, or by one level for all parts
of the program.
-/

namespace DialogKit

/-- The choices of a run about its log. -/
structure LogFilter where
  trace : Bool := false
  debug : Bool := false
  level : Option String := none
  filter : Option String := none
  deriving DecidableEq, Repr

namespace LogFilter

/-- The parts of the program that report events. -/
def parts : List String :=
  ["dialogs", "dialog_engine", "dialog_config", "dialog_actions", "dialog_key", "logging"]

/-- The filter that sets one level for all parts. -/
def ofLevel (level : String) : String :=
  let level := Text.lowerAscii level
  String.intercalate "," (parts.map fun part ↦ part ++ "=" ++ level)

/-- The text of the filter: an explicit filter wins, then tracing, then debugging, then the level;
with none of them the level is `info`. -/
def spec (choices : LogFilter) : String :=
  match choices.filter with
  | some filter => filter
  | none =>
      if choices.trace then ofLevel "trace"
      else if choices.debug then ofLevel "debug"
      else ofLevel (choices.level.getD "info")

end LogFilter

end DialogKit
