import DialogKit.Catalog
import DialogKit.Component.Input
import DialogKit.Decimal.Fixed
import DialogKit.Validation.Report

/-!
# Checking dialogs

The validator reads dialogs as they are written, apart from compilation. Errors are the faults of
inputs: a missing or repeated id, a range with a number that is not finite, a range whose lower
bound is not below the upper one. Everything else is a warning or a hint.
-/

namespace DialogKit.Validation

open Component (shownText?)

/-- What is checked: a dialog by its id, and the formatter that its texts go through. -/
structure Subject where
  dialog : String
  format : Formatter

namespace Subject

/-- An issue with the input of the given id. -/
def inputIssue (s : Subject) (severity : Severity) (input message suggestion : String) : Issue :=
  { severity, dialog := s.dialog, input := some input, message, suggestion }

/-- An issue with the dialog as a whole. -/
def dialogIssue (s : Subject) (severity : Severity) (message suggestion : String) : Issue :=
  { severity, dialog := s.dialog, input := none, message, suggestion }

end Subject

/-- Whether a text has markup for colours. -/
def hasMarkup (text : String) : Bool :=
  Text.hasPart "<gradient:" text || text.toList.any fun c ↦ ['&', '#', '§'].contains c

/-- The greatest length of a text input, if a number says so. -/
def maxLength? (part : Document) : Option Int :=
  ((part.value? "max_length").filter Value.isNumber).bind Value.int? |>.map Int64.toInt

/-- Issues with an initial text that has markup. -/
def markupIssues (s : Subject) (id initial : String) (maxLength : Int) : List Issue :=
  let length : Int := (s.format initial).length
  (if 0 < maxLength ∧ maxLength < length then
    [s.inputIssue .warning id
      ("Initial text with formatting (" ++ toString length ++ " chars) exceeds max_length (" ++
        toString maxLength ++ ")")
      ("Increase max_length to at least " ++ toString (length + 50) ++
        " or simplify initial text")]
  else []) ++
  if 0 < maxLength ∧ maxLength < 50 then
    [s.inputIssue .info id "Using formatted initial text with low max_length may cause issues"
      "Consider using max_length of 50+ when using formatted text"]
  else []

def textIssues (s : Subject) (part : Document) (id : String) : List Issue :=
  match maxLength? part with
  | none => []
  | some maxLength =>
      (match ((part.value? "initial").bind Value.str?).filter hasMarkup with
        | some initial => markupIssues s id initial maxLength
        | none => []) ++
      if maxLength < 1 then
        [s.inputIssue .warning id
          ("max_length is set to " ++ toString maxLength ++ " (effectively unlimited)")
          "Set a reasonable max_length (e.g., 50-500) or remove the field"]
      else []

def finiteIssues (s : Subject) (id : String) (fields : List (String × Float)) : List Issue :=
  (fields.filter fun field ↦ !field.2.isFinite).map fun (name, x) ↦
    s.inputIssue .error id (name ++ " value (" ++ Decimal.text x ++ ") must be a finite number")
      ("Replace '" ++ name ++ "' with a finite number")

/-- Issues with finite bounds, and with an initial value outside of them. -/
def boundIssues (s : Subject) (id : String) (min max : Float) (initial : Option Float) :
    List Issue :=
  let places := Decimal.fixed 2
  (if min < max then []
  else
    [s.inputIssue .error id
      ("min value (" ++ places min ++ ") must be less than max value (" ++ places max ++ ")")
      "Ensure min < max for proper range functionality"]) ++
  match initial with
  | some x =>
      if x.isFinite && !(min ≤ x && x ≤ max) then
        [s.inputIssue .warning id
          ("initial value (" ++ places x ++ ") is outside range [" ++ places min ++ ", " ++
            places max ++ "]")
          "Set initial value within the min-max range"]
      else []
  | none => []

/-- Issues with a range; only one that gives both bounds is looked at. -/
def rangeIssues (s : Subject) (part : Document) (id : String) : List Issue :=
  match part.float? "min", part.float? "max" with
  | some min, some max =>
      let step := (part.float? "step").toList.map ("step", ·)
      let initial := (part.float? "initial").toList.map ("initial", ·)
      finiteIssues s id (("min", min) :: ("max", max) :: step ++ initial) ++
        if min.isFinite && max.isFinite then boundIssues s id min max (part.float? "initial")
        else []
  | _, _ => []

def booleanIssues (s : Subject) (part : Document) (id : String) : List Issue :=
  match part.value? "initial" with
  | none | some (.bool _) => []
  | some _ =>
      [s.inputIssue .warning id "Boolean input 'initial' should be a boolean value"
        "Change 'initial' to true or false"]

/-- Issues with the settings of an input, by its type. -/
def settingIssues (s : Subject) (part : Document) (id : String) : List Issue :=
  match (part.str? "type").map Text.lower with
  | none =>
      s.inputIssue .warning id "Input type not specified, defaulting to 'text'"
        "Explicitly set 'type: text' or choose another input type" :: textIssues s part id
  | some "text" => textIssues s part id
  | some "number_range" => rangeIssues s part id
  | some "boolean" => booleanIssues s part id
  | some _ => []

def missingId (s : Subject) (index : Nat) : Issue :=
  s.inputIssue .error ("input[" ++ toString index ++ "]")
    "Input is missing required 'id' field" "Add an 'id' field with a unique identifier"

def repeatedId (s : Subject) (id : String) : Issue :=
  s.inputIssue .error id ("Duplicate input id '" ++ id ++ "'")
    "Give every input in a dialog a unique 'id'"

/-- Issues with the inputs from the entry `index` on, where the ids in `seen` came before. -/
def inputIssuesFrom (s : Subject) : Nat → List String → List Value → List Issue
  | _, _, [] => []
  | index, seen, entry :: rest =>
      match Document.ofValue? entry with
      | none => inputIssuesFrom s (index + 1) seen rest
      | some part =>
          match shownText? part "id" with
          | none => missingId s index :: inputIssuesFrom s (index + 1) seen rest
          | some id =>
              (if seen.contains id then [repeatedId s id] else []) ++ settingIssues s part id ++
                inputIssuesFrom s (index + 1) (id :: seen) rest

def nestingIssues (s : Subject) (document : Document) : List Issue :=
  if Catalog.isNested s.dialog document then
    [s.dialogIssue .info "Dialog uses nested structure (dialog ID as root key)"
      "Consider moving content to root level for cleaner structure"]
  else []

def buttonIssues (s : Subject) (root : Document) : List Issue :=
  match root.part? "buttons" with
  | some buttons =>
      if buttons.contains "confirm" || buttons.contains "cancel" then []
      else
        [s.dialogIssue .warning "No confirm or cancel buttons defined"
          "Add 'confirm' and/or 'cancel' button configurations"]
  | none => []

def titleIssues (s : Subject) (root : Document) : List Issue :=
  if root.contains "title" then []
  else
    [s.dialogIssue .warning "No title specified" "Add a 'title' field to improve user experience"]

/-- Checks a dialog. -/
def dialog (format : Formatter) (id : String) (document : Document) : Report :=
  let s : Subject := ⟨id, format⟩
  let root := Catalog.unwrap id document
  ⟨nestingIssues s document ++ inputIssuesFrom s 0 [] ((root.list? "inputs").getD []) ++
    buttonIssues s root ++ titleIssues s root⟩

/-- Checks every dialog of a catalog, in the order of the sorted ids. -/
def catalog (format : Formatter) (c : Catalog) : Report :=
  ⟨c.ids.flatMap fun id ↦
    match c.get? id with
    | some document => (dialog format id document).issues
    | none => []⟩

end DialogKit.Validation
