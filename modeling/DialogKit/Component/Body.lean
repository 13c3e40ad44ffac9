import DialogKit.Component.Input

/-!
# Building body elements

A body element is a message or an item. A message reads `message` and, where that is absent, the
older `text`. The material of an item has to be one that the host knows.
-/

namespace DialogKit.Component

def messageBody (part : Document) (host : Host) : BodyElement :=
  let text := ((part.str? "message").or (part.str? "text")).getD ""
  .message (host.format text) (part.nat32 "width" 300)

/-- A display text that may be absent; blank text counts as absent. -/
def displayText? (part : Document) (host : Host) (path : String) : Option String :=
  (shownText? part path).map host.format

/-- The lines of lore: only real strings count. -/
def lore (part : Document) (host : Host) : List String :=
  (((part.list? "lore").getD []).filterMap Value.str?).map host.format

def itemBody (part : Document) (host : Host) : Except Skip BodyElement :=
  let name := part.str "material" "STONE"
  match host.materials name with
  | none => .error (.unknownMaterial name)
  | some material =>
      .ok (.item material (part.nat32 "amount" 1) (displayText? part host "display_name")
        (lore part host) (part.nat32 "width" 300) (part.nat32 "height" 300)
        (part.bool "show_tooltip" true) (part.bool "show_stack_count" true)
        (displayText? part host "description"))

/-- Builds a body element. -/
def body (part : Document) (host : Host) : Except Skip BodyElement :=
  match part.str? "type" with
  | none => .error (.missingField .body "type")
  | some kind =>
      match Text.lower kind with
      | "plain_message" => .ok (messageBody part host)
      | "item" => itemBody part host
      | other => .error (.unsupportedType .body other)

end DialogKit.Component
