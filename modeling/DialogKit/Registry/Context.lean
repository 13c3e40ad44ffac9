import DialogKit.Effect
import DialogKit.Key
import DialogKit.Payload

/-!
# Triggered actions

What a handler gets when a player triggers a custom action, and how a handler ends.
-/

namespace DialogKit

/-- One triggered action. -/
structure Context where
  key : Key
  payload : Payload
  player : Player
  /-- Whether replies reach the player; otherwise they are dropped. -/
  replies : Bool

namespace Context

/-- Sends a message to the player who triggered the action. -/
def reply (cx : Context) (message : String) : Effectful Unit :=
  if cx.replies then Journal.note (.reply cx.player message)
  else Effectful.log .debug "dialog_actions::context" message [.bare "player" cx.player.id.text]

/-- How a context shows in diagnostics. -/
def debug (cx : Context) : String :=
  "ActionContext \x7b key: " ++ cx.key.debug ++ ", player: " ++ cx.player.debug ++ ", payload: " ++
    cx.payload.debug ++ ", .. \x7d"

end Context

/-- Why a handler refuses to go on. -/
inductive HandlerFault where
  /-- A submitted value is absent or of another shape. -/
  | payload (name : String)
  | rejected (reason : String)
  | other (text : String)
  deriving DecidableEq, Repr

def HandlerFault.message : HandlerFault → String
  | .payload name => "missing or invalid payload value '" ++ name ++ "'"
  | .rejected reason => "action rejected: " ++ reason
  | .other text => "handler error: " ++ text

/-- How a handler ends. -/
inductive Ending where
  | done
  | failed (fault : HandlerFault)
  /-- The handler broke down, with a message if it left one. -/
  | panicked (message : Option String)
  deriving DecidableEq, Repr

/-- What came of delivering an action to its handlers. -/
structure Outcome where
  /-- Handlers that ended well. -/
  invoked : Nat := 0
  /-- Handlers that failed or broke down. -/
  failed : Nat := 0
  /-- Inactive listeners that were found in the list and taken out of it. -/
  reaped : Nat := 0
  deriving DecidableEq, Repr

namespace Outcome

/-- Handlers that ran. -/
def attempted (o : Outcome) : Nat :=
  o.invoked + o.failed

def ofEndings (endings : List Ending) (reaped : Nat) : Outcome where
  invoked := (endings.filter fun e ↦ e == .done).length
  failed := (endings.filter fun e ↦ e != .done).length
  reaped := reaped

/-- How an outcome shows in diagnostics. -/
def debug (o : Outcome) : String :=
  "DispatchOutcome \x7b invoked: " ++ toString o.invoked ++ ", failed: " ++ toString o.failed ++
    ", reaped: " ++ toString o.reaped ++ " \x7d"

end Outcome

end DialogKit
