import DialogKit.Decimal.Style
import DialogKit.Uuid

/-!
# Players and viewers

A player is known by an id and perhaps by a name. A viewer is a player to whom a dialog is shown,
with the place where the player stands.
-/

namespace DialogKit

structure Player where
  id : Uuid
  name : Option String
  deriving DecidableEq

/-- How a player shows in diagnostics. -/
def Player.debug (p : Player) : String :=
  let name := match p.name with
    | some name => "Some(" ++ Text.quoted name ++ ")"
    | none => "None"
  "PlayerRef \x7b id: " ++ p.id.text ++ ", name: " ++ name ++ " \x7d"

structure Viewer where
  player : Player
  world : String
  x : Float
  y : Float
  z : Float
  gamemode : String

namespace Viewer

/-- The name of the player, or the id of one without a name. -/
def name (v : Viewer) : String :=
  v.player.name.getD v.player.id.text

/-- The whole coordinate at or below a coordinate, brought into 64 bits. -/
def block (coordinate : Float) : Int64 :=
  coordinate.floor.toInt64

end Viewer

end DialogKit
