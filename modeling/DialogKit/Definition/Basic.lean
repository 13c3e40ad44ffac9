import DialogKit.Key

/-!
# Dialog definitions

Dialogs ready to be shown: titles, body elements, inputs and a layout of buttons. A button that
shows another dialog carries the definition of that dialog. Texts are as the host formats them.
-/

namespace DialogKit

/-- A part of a dialog that is only displayed. -/
inductive BodyElement where
  | message (text : String) (width : UInt32)
  | item (material : String) (amount : UInt32) (displayName : Option String) (lore : List String)
      (width height : UInt32) (showTooltip showDecorations : Bool) (description : Option String)
  deriving DecidableEq

/-- The size of a text input with several lines. -/
structure Multiline where
  maxLines : UInt32
  maxColumns : UInt32
  deriving DecidableEq

/-- One choice of a single-option input. -/
structure Choice where
  value : String
  display : String
  selected : Bool
  deriving DecidableEq

inductive InputKind where
  /-- A box to check, with the values submitted for its two states. -/
  | boolean (initial : Bool) (onTrue onFalse : Option String)
  /-- A slider from `min`, which is below `max`, in steps. -/
  | numberRange (min max step initial : Float) (width : UInt32) (labelFormat : Option String)
  /-- A text; the greatest length zero stands for no limit. -/
  | text (initial : String) (width maxLength : UInt32) (labelVisible : Bool)
      (multiline : Option Multiline)
  | singleOption (width : UInt32) (labelVisible : Bool) (choices : List Choice)

/-- An input and the id under which its value is submitted. -/
structure Input where
  id : String
  label : String
  kind : InputKind

/-- Who runs a command. -/
inductive CommandScope where
  | player
  | console
  deriving DecidableEq, Repr

mutual

structure Definition where
  id : String
  title : String
  /-- The title by which other places refer to the dialog. -/
  externalTitle : String
  closesOnEscape : Bool
  body : List BodyElement
  /-- The ids of the inputs are distinct. -/
  inputs : List Input
  layout : Layout

/-- How the buttons of a dialog are laid out. -/
inductive Layout where
  | confirmation (confirm cancel : Button)
  | notice (exit : Button)
  | multiAction (buttons : List Button) (exit : Option Button) (columns : UInt32)

structure Button where
  text : String
  description : String
  width : UInt32
  /-- A button without an action only closes the dialog. -/
  action : Option Action

inductive Action where
  | close
  /-- Closes the dialog and returns to the screen before it. -/
  | goBack
  | copyToClipboard (text : String)
  | showDialog (target : String) (dialog : Definition)
  | openUrl (url : String)
  /-- Runs a command whose placeholders are filled in on the click. -/
  | runCommand (template : String) (scope : CommandScope)
  | suggestCommand (template : String)
  /-- Calls the handlers of a key. -/
  | custom (key : Key)

end

/-- The name of an action as documents write it. -/
def Action.typeName : Action → String
  | .close => "close"
  | .goBack => "return"
  | .copyToClipboard _ => "copy_to_clipboard"
  | .showDialog _ _ => "show_dialog"
  | .openUrl _ => "open_url"
  | .runCommand _ .player => "run_command"
  | .runCommand _ .console => "console_command"
  | .suggestCommand _ => "suggest_command"
  | .custom _ => "custom"

/-- The name of a layout as documents write it. -/
def Layout.typeName : Layout → String
  | .confirmation _ _ => "confirmation"
  | .notice _ => "notice"
  | .multiAction _ _ _ => "multi_action"

/-- The buttons in the order in which they are displayed. -/
def Layout.buttons : Layout → List Button
  | .confirmation confirm cancel => [confirm, cancel]
  | .notice exit => [exit]
  | .multiAction buttons exit _ => buttons ++ exit.toList

end DialogKit
