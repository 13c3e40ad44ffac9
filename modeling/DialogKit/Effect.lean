import DialogKit.Log
import DialogKit.Player

/-!
# Effects

What a running system of dialogs does to the world outside of it: commands and replies for the
host, notes of handlers and addons, and log events. Effects are values, listed in the order in
which they happen.
-/

namespace DialogKit

/-- A command as it is handed to the host. -/
inductive Command.Sent where
  /-- Run on behalf of the viewer. -/
  | player (viewer : Viewer) (command : String)
  | console (command : String)
  /-- Put before the viewer, who may run it. -/
  | suggestion (viewer : Viewer) (command : String)

inductive Effect where
  | log (event : Log.Event)
  | command (sent : Command.Sent)
  | reply (player : Player) (message : String)
  /-- What a handler or an addon tells the host on its own account. -/
  | note (text : String)

/-- A computation that has effects. -/
abbrev Effectful (α : Type) := Journal Effect α

namespace Effectful

def ofLogged {α : Type} (x : Logged α) : Effectful α :=
  x.mapNotes .log

def log (level : Log.Level) (target message : String) (fields : List Log.Field := []) :
    Effectful Unit :=
  ofLogged (Log.emit level target message fields)

end Effectful

namespace Effect

/-- The log events among effects. -/
def logged (effects : List Effect) : List Log.Event :=
  effects.filterMap fun
    | .log event => some event
    | _ => none

/-- The commands among effects. -/
def commands (effects : List Effect) : List Command.Sent :=
  effects.filterMap fun
    | .command sent => some sent
    | _ => none

end Effect

end DialogKit
