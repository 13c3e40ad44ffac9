import DialogKit.Component.Skip
import DialogKit.Definition.Basic
import DialogKit.Document.Basic
import DialogKit.Host
import DialogKit.Log

/-!
# Building inputs

An input is built from its section: an id, a label, and the settings of its type. Every label shows
something, since a label that does not falls back to the id. A range is only built with finite
bounds, step and initial value and with its lower bound below the upper one.
-/

namespace DialogKit.Component

open Log (emit)

/-- A required text of a section; blank text counts as absent. -/
def shownText? (part : Document) (path : String) : Option String :=
  (part.str? path).filter fun s ↦ !Text.isBlankText s

/-- The label as written: a string, or the text of a map. -/
def rawLabel (part : Document) : String :=
  match part.value? "label" with
  | some (.str s) => s
  | some (.map _) => part.str "label.text" ""
  | _ => ""

/-- The label of the input with the given id. -/
def label (part : Document) (id : String) (host : Host) : String :=
  let raw := rawLabel part
  if Text.isBlankText raw then id else host.format raw

/-- A value that only counts if it is a string. -/
def stringOnly (part : Document) (key id : String) : Logged (Option String) :=
  match part.value? key with
  | some (.str s) => pure (some s)
  | some other => do
      emit .debug "dialog_config::components::input" "ignoring non-string value"
        [.quoted "input" id, .quoted "key" key, .quoted "found" other.typeName]
      return none
  | none => pure none

def booleanInput (part : Document) (id : String) : Logged InputKind := do
  let onTrue ← stringOnly part "on_true" id
  let onFalse ← stringOnly part "on_false" id
  return .boolean (part.bool "initial" false) onTrue onFalse

/-- The first of the named numbers that is not finite. -/
def nonFinite? (fields : List (String × Float)) : Option String :=
  (fields.find? fun field ↦ !field.2.isFinite).map Prod.fst

def rangeInput (part : Document) (id : String) : Except Skip InputKind :=
  let min := part.float "min" 0.0
  let max := part.float "max" 100.0
  if !(min < max) then .error (.invalidRange id min max)
  else
    let step := part.float "step" 1.0
    let initial := part.float "initial" min
    match nonFinite? [("min", min), ("max", max), ("step", step), ("initial", initial)] with
    | some field => .error (.nonFinite id field)
    | none =>
        .ok (.numberRange min max step initial (part.nat32 "width" 300)
          (shownText? part "label_format"))

/-- Several lines are only allowed by a map that may tell how many. -/
def multiline? (part : Document) : Option Multiline :=
  (part.part? "multiline").map fun size ↦
    { maxLines := size.nat32 "max_lines" 1, maxColumns := size.nat32 "max_columns" 50 }

def textInput (part : Document) : InputKind :=
  .text (part.str "initial" "") (part.nat32 "width" 300) (part.nat32 "max_length" 0)
    (part.bool "label_visible" true) (multiline? part)

/-- A choice is a string, or a map with an id. -/
def choice? (host : Host) : ListItem → Option Choice
  | .scalar (.str s) => some { value := s, display := host.format s, selected := false }
  | .scalar _ => none
  | .part entry =>
      (shownText? entry "id").map fun value ↦
        { value
          display := host.format (entry.str "display" value)
          selected := entry.bool "initial" false }

def choiceInput (part : Document) (host : Host) : Except Skip InputKind :=
  match (part.items "entries").filterMap (choice? host) with
  | [] => .error (.missingField .singleOption "entries")
  | choices =>
      .ok (.singleOption (part.nat32 "width" 300) (part.bool "label_visible" true) choices)

/-- The settings of the input type that a section names. -/
def inputKind (part : Document) (id : String) (host : Host) :
    ExceptT Skip (Journal Log.Event) InputKind :=
  match Text.lower (part.str "type" "text") with
  | "boolean" => ExceptT.lift (booleanInput part id)
  | "number_range" => ExceptT.mk (pure (rangeInput part id))
  | "text" => pure (textInput part)
  | "single_option" => ExceptT.mk (pure (choiceInput part host))
  | other => throw (.unsupportedType .input other)

/-- Builds an input. -/
def input (part : Document) (host : Host) : ExceptT Skip (Journal Log.Event) Input :=
  match shownText? part "id" with
  | none => throw (.missingField .input "id")
  | some id => do
      let kind ← inputKind part id host
      return { id, label := label part id host, kind }

end DialogKit.Component
