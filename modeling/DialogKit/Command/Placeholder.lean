import DialogKit.Player
import DialogKit.Text.Replace

/-!
# Placeholders

Command templates name the viewer and the place of the viewer by tags such as `<player>`. A host
may expand further placeholders, which stand between percent signs; those that are left and name
the viewer are filled in last. Without a viewer only `<player>` is filled in.
-/

namespace DialogKit

namespace Command

/-- Fills in a template for a viewer, or for the console. -/
abbrev Resolver := String → Option Viewer → String

/-- Stands for the player where there is none. -/
def consoleName : String := "CONSOLE"

def intText (i : Int64) : String :=
  toString i.toInt

/-- The tags with what they stand for. -/
def tags (v : Viewer) : List (String × String) :=
  let x := intText (Viewer.block v.x)
  let y := intText (Viewer.block v.y)
  let z := intText (Viewer.block v.z)
  [("<player>", v.name), ("<uuid>", v.player.id.text), ("<world>", v.world), ("<x>", x), ("<y>", y),
    ("<z>", z), ("<pos>", x ++ " " ++ y ++ " " ++ z), ("<gamemode>", v.gamemode)]

/-- The placeholders that are filled in after those of the host. -/
def fallbacks (v : Viewer) : List (String × String) :=
  [("%player_name%", v.name), ("%player_uuid%", v.player.id.text), ("%player_world%", v.world),
    ("%world%", v.world), ("%player_gamemode%", v.gamemode)]

/-- Whether a text may still hold placeholders. -/
def hasPlaceholder (text : String) : Bool :=
  text.toList.contains '%'

theorem hasPlaceholder_eq (text : String) : hasPlaceholder text = decide ('%' ∈ text.toList) :=
  List.contains_eq_mem ..

/-- The placeholders of dialogs, with those of a host if it has any. -/
structure Placeholders where
  expansion : Option Resolver := none

/-- The expansion of the host, for a text that still holds placeholders. -/
def Placeholders.expand (p : Placeholders) (v : Viewer) (text : String) : String :=
  match p.expansion with
  | some expansion => if hasPlaceholder text then expansion text (some v) else text
  | none => text

def Placeholders.resolve (p : Placeholders) : Resolver := fun template viewer ↦
  match viewer with
  | none => Text.replaceAll "<player>" consoleName template
  | some v =>
      let text := p.expand v (Text.replaceEach (tags v) template)
      if hasPlaceholder text then Text.replaceEach (fallbacks v) text else text

/-- How placeholders show in diagnostics. -/
def Placeholders.debug (p : Placeholders) : String :=
  "Placeholders \x7b expansion: " ++ (if p.expansion.isSome then "true" else "false") ++ " \x7d"

end Command

end DialogKit
