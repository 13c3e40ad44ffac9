import DialogKit.Compile.Fault
import DialogKit.Component.Input
import DialogKit.Kind.Basic

/-!
# Compiling buttons

A button is built from its section and the action in it. An action that makes no sense is dropped
and reported, and the button only closes the dialog; so is a target that cannot be compiled. Only a
target that leads back to a dialog being compiled makes the whole compilation fail.
-/

namespace DialogKit

/-- A compilation: it reports events and may fail. -/
abbrev CompileM := ExceptT CompileFault (Journal Log.Event)

namespace Compile

open Log (emit)

def report (level : Log.Level) (target message : String) (fields : List Log.Field) :
    CompileM Unit :=
  ExceptT.lift (emit level target message fields)

def warnAction (message : String) (fields : List Log.Field) : CompileM Unit :=
  report .warn "dialog_config::action" message fields

/-- A text that an action needs; a missing one is reported. -/
def required (part : Document) (field kind : String) : CompileM (Option String) :=
  match Component.shownText? part field with
  | some text => pure (some text)
  | none => do
      warnAction "missing required field for action" [.quoted "action" kind, .quoted "field" field]
      return none

/-- The action that shows another dialog; `compileTarget` compiles that dialog. -/
def showAction (catalog : Catalog) (compileTarget : String → CompileM Definition)
    (part : Document) : CompileM (Option Action) := do
  match ← required part "id" "show_dialog" with
  | none => return none
  | some target =>
      if !catalog.contains target then
        warnAction "show_dialog target does not exist" [.bare "target" target]
        return none
      else
        match ← ExceptT.lift (ExceptT.run (compileTarget target)) with
        | .ok dialog => return some (.showDialog target dialog)
        | .error (.cycle chain) => throw (.cycle chain)
        | .error fault =>
            warnAction "failed to build show_dialog target"
              [.bare "target" target, .bare "error" fault.message]
            return none

/-- The action that calls the handlers of a key. -/
def customAction (part : Document) (kind : String) : CompileM (Option Action) := do
  match ← required part "key" kind with
  | none => return none
  | some text =>
      match Key.parse? text with
      | .ok key => return some (.custom key)
      | .error fault =>
          warnAction "invalid key for custom action" [.bare "error" fault.message]
          return none

/-- The action of an action section, if it has one that makes sense. -/
def action (catalog : Catalog) (compileTarget : String → CompileM Definition) (part : Document) :
    CompileM (Option Action) :=
  match Text.lower (part.str "type" "return") with
  | "close" => pure (some .close)
  | "return" => pure (some .goBack)
  | "copy_to_clipboard" =>
      return (← required part "text" "copy_to_clipboard").map .copyToClipboard
  | "open_url" => return (← required part "url" "open_url").map .openUrl
  | "run_command" =>
      return (← required part "command" "run_command").map (.runCommand · .player)
  | "console_command" =>
      return (← required part "command" "console_command").map (.runCommand · .console)
  | "suggest_command" =>
      return (← required part "command" "suggest_command").map .suggestCommand
  | "show_dialog" => showAction catalog compileTarget part
  | "custom" => customAction part "custom"
  | "null" | "none" => pure none
  | other => do
      warnAction "unsupported action type" [.quoted "action" other]
      return none

/-- The action section of a button; a string stands for a section with only a type. -/
def actionPart? (part : Document) : Option Document :=
  match part.value? "action" with
  | some (.map entries) => some ⟨entries⟩
  | some (.str kind) => some (Document.empty.set "type" (.str kind))
  | _ => none

/-- The button of a slot. Without an action section it returns to the screen before. -/
def button (catalog : Catalog) (host : Host) (compileTarget : String → CompileM Definition)
    (part : Option Document) (slot : ButtonSlot) : CompileM Button :=
  match part with
  | none => pure slot.plainButton
  | some part => do
      let found ←
        match actionPart? part with
        | some section_ => action catalog compileTarget section_
        | none => pure (some .goBack)
      return {
        text := host.format (part.str "text" slot.text)
        description := host.format (part.str "description" slot.description)
        width := part.nat32 "width" slot.width
        action := found }

end Compile

end DialogKit
