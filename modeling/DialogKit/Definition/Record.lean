import DialogKit.Definition.Basic
import DialogKit.Record

/-!
# Definitions as records

The fields of definitions and their parts, in order. Where several kinds share a place, the field
`type` comes first and names the kind.
-/

namespace DialogKit

def optionalText (s : Option String) : Record :=
  Record.ofOption .text s

def BodyElement.toRecord : BodyElement → Record
  | .message text width =>
      .fields [("type", .text "plain_message"), ("formatted_text", .text text),
        ("width", Record.word width)]
  | .item material amount displayName lore width height showTooltip showDecorations description =>
      .fields [("type", .text "item"), ("material", .text material),
        ("amount", Record.word amount), ("display_name", optionalText displayName),
        ("lore", Record.texts lore), ("width", Record.word width),
        ("height", Record.word height), ("show_tooltip", .bool showTooltip),
        ("show_decorations", .bool showDecorations), ("description", optionalText description)]

def Multiline.toRecord (m : Multiline) : Record :=
  .fields [("max_lines", Record.word m.maxLines),
    ("max_columns", Record.word m.maxColumns)]

def Choice.toRecord (c : Choice) : Record :=
  .fields [("value", .text c.value), ("display_text", .text c.display),
    ("initially_selected", .bool c.selected)]

def InputKind.toRecord : InputKind → Record
  | .boolean initial onTrue onFalse =>
      .fields [("type", .text "boolean"), ("initial", .bool initial),
        ("on_true", optionalText onTrue), ("on_false", optionalText onFalse)]
  | .numberRange min max step initial width labelFormat =>
      .fields [("type", .text "number_range"), ("min", .float min), ("max", .float max),
        ("step", .float step), ("initial", .float initial), ("width", Record.word width),
        ("label_format", optionalText labelFormat)]
  | .text initial width maxLength labelVisible multiline =>
      .fields [("type", .text "text"), ("initial", .text initial),
        ("width", Record.word width), ("max_length", Record.word maxLength),
        ("label_visible", .bool labelVisible),
        ("multiline", Record.ofOption Multiline.toRecord multiline)]
  | .singleOption width labelVisible choices =>
      .fields [("type", .text "single_option"), ("width", Record.word width),
        ("label_visible", .bool labelVisible), ("options", .list (choices.map Choice.toRecord))]

def Input.toRecord (i : Input) : Record :=
  .fields [("id", .text i.id), ("label", .text i.label), ("kind", i.kind.toRecord)]

def CommandScope.name : CommandScope → String
  | .player => "player"
  | .console => "console"

mutual

def Definition.toRecord : Definition → Record
  | ⟨id, title, externalTitle, closesOnEscape, body, inputs, layout⟩ =>
      .fields [("id", .text id), ("title", .text title), ("external_title", .text externalTitle),
        ("can_close_with_escape", .bool closesOnEscape),
        ("body", .list (body.map BodyElement.toRecord)),
        ("inputs", .list (inputs.map Input.toRecord)), ("kind", Layout.toRecord layout)]

def Layout.toRecord : Layout → Record
  | .confirmation confirm cancel =>
      .fields [("type", .text "confirmation"), ("confirm", Button.toRecord confirm),
        ("cancel", Button.toRecord cancel)]
  | .notice exit => .fields [("type", .text "notice"), ("exit", Button.toRecord exit)]
  | .multiAction buttons exit columns =>
      .fields [("type", .text "multi_action"), ("buttons", .list (Button.toRecords buttons)),
        ("exit", Button.toOptionalRecord exit), ("columns", Record.word columns)]

def Button.toRecords : List Button → List Record
  | [] => []
  | button :: rest => Button.toRecord button :: Button.toRecords rest

def Button.toOptionalRecord : Option Button → Record
  | none => .absent
  | some button => .present (Button.toRecord button)

def Button.toRecord : Button → Record
  | ⟨text, description, width, action⟩ =>
      .fields [("text", .text text), ("description", .text description),
        ("width", Record.word width), ("action", Action.toOptionalRecord action)]

def Action.toOptionalRecord : Option Action → Record
  | none => .absent
  | some action => .present (Action.toRecord action)

def Action.toRecord : Action → Record
  | .close => .fields [("type", .text "close")]
  | .goBack => .fields [("type", .text "return")]
  | .copyToClipboard text => .fields [("type", .text "copy_to_clipboard"), ("text", .text text)]
  | .showDialog target dialog =>
      .fields [("type", .text "show_dialog"), ("target_dialog_id", .text target),
        ("dialog", Definition.toRecord dialog)]
  | .openUrl url => .fields [("type", .text "open_url"), ("url", .text url)]
  | .runCommand template scope =>
      .fields [("type", .text "run_command"), ("template", .text template),
        ("scope", .symbol scope.name)]
  | .suggestCommand template =>
      .fields [("type", .text "suggest_command"), ("template", .text template)]
  | .custom key => .fields [("type", .text "custom"), ("key", .text key.text)]

end

end DialogKit
