import DialogKit.Kind.Basic

/-!
# Built-in kinds

A confirmation has two buttons, a notice has one, and a dialog of several actions has a grid of
buttons and perhaps one to leave. The grid is read from a map or a list; where it is empty it shows
three placeholders.
-/

namespace DialogKit.Kind

def confirmation : Kind where
  name := "confirmation"
  plan _ root :=
    let buttons := root.part? "buttons"
    let part? (name : String) : Option Document := buttons.bind (·.part? name)
    .button (part? "confirm") .confirm fun confirm ↦
      .button (part? "cancel") .cancel fun cancel ↦
        .finish (.confirmation confirm cancel)

def notice : Kind where
  name := "notice"
  plan _ root :=
    .button (root.part? "exit_button") .acknowledge fun exit ↦ .finish (.notice exit)

/-- Shown where a dialog of several actions has no buttons. -/
def placeholders : List Button :=
  ["These are", "Default", "Buttons"].map fun text ↦
    ⟨text, "You should configure buttons in this dialog configuration.", 100, none⟩

/-- The sections of the grid: the maps among the values of a map, or among the items of a list. -/
def gridParts (root : Document) : List Document :=
  match root.part? "buttons" with
  | some parts => parts.entries.filterMap fun entry ↦ Document.ofValue? entry.2
  | none => (root.items "buttons").filterMap ListItem.part?

/-- Builds one button after the other. -/
def buildAll : List Document → (List Button → Plan) → Plan
  | [], next => next []
  | part :: rest, next =>
      .button (some part) .action fun button ↦
        buildAll rest fun buttons ↦ next (button :: buttons)

def noButtons : Log.Event :=
  { level := .debug
    target := "dialog_config::kinds"
    message := "multi_action dialog has no buttons, using placeholders" }

/-- The last step of a dialog of several actions: the button to leave, if the dialog has one. -/
def finishGrid (root : Document) (buttons : List Button) : Plan :=
  let columns := root.nat32 "columns" 2
  match root.part? "exit_button" with
  | none => .finish (.multiAction buttons none columns)
  | some part =>
      .button (some part) .action fun exit ↦ .finish (.multiAction buttons (some exit) columns)

def multiAction : Kind where
  name := "multi_action"
  plan _ root :=
    buildAll (gridParts root) fun buttons ↦
      if buttons.isEmpty then .note noButtons (finishGrid root placeholders)
      else finishGrid root buttons

end DialogKit.Kind
