import DialogKit.Json.Reader
import DialogKit.Record
import DialogKit.Text.Blank
import DialogKit.Validation.Report

/-!
# Settings

The settings of an engine. Each has a default, so none needs to be given. In an interchange value
they are the fields of an object, or the items of a list in the order of the fields; unknown fields
are passed over.
-/

namespace DialogKit

/-- The version that is reported where the settings give no other. -/
def defaultApiVersion : String := "0.0.1"

structure Settings where
  validation : Validation.Policy := .advisory
  /-- The version that addons are told. -/
  apiVersion : String := defaultApiVersion
  /-- The dialog that is opened where no id is given. -/
  defaultDialog : Option String := none
  /-- Whether a new catalog is validated. -/
  validateOnReload : Bool := true
  deriving DecidableEq, Repr

namespace Settings

/-- The version that is reported; a blank one is unknown. -/
def reportedVersion (s : Settings) : String :=
  let version := Text.trim s.apiVersion
  if version.isEmpty then "unknown" else version

def policyDebug : Validation.Policy → String
  | .advisory => "Advisory"
  | .blockOnError => "BlockOnError"

/-- How settings show in diagnostics. -/
def debug (s : Settings) : String :=
  let dialog := match s.defaultDialog with
    | some id => "Some(" ++ Text.quoted id ++ ")"
    | none => "None"
  "EngineSettings \x7b validation: " ++ policyDebug s.validation ++ ", api_version: " ++
    Text.quoted s.apiVersion ++ ", default_dialog: " ++ dialog ++ ", validate_on_reload: " ++
    (if s.validateOnReload then "true" else "false") ++ " \x7d"

def toRecord (s : Settings) : Record :=
  .fields [("validation", .symbol s.validation.name), ("api_version", .text s.apiVersion),
    ("default_dialog", Record.ofOption .text s.defaultDialog),
    ("validate_on_reload", .bool s.validateOnReload)]

/-- The policy with the given name. -/
def policy? (name : String) : Option Validation.Policy :=
  [Validation.Policy.advisory, .blockOnError].find? fun policy ↦ policy.name == name

/-- Why an interchange value does not fit. -/
def mismatch {α : Type} (found : Json) (expected : String) : Except String α :=
  .error ("invalid type: " ++ found.describe ++ ", expected " ++ expected)

def policyNamed (name : String) : Except String Validation.Policy :=
  match policy? name with
  | some policy => .ok policy
  | none =>
      .error ("unknown variant `" ++ name ++ "`, expected `advisory` or `block_on_error`")

/-- A policy is a name, or an object with the name as its one key and nothing under it. -/
def policyOfJson : Json → Except String Validation.Policy
  | .string name => policyNamed name
  | .object [(name, content)] => do
      let policy ← policyNamed name
      match content with
      | .null => return policy
      | other => mismatch other "unit"
  | .object _ => .error "invalid value: map, expected map with a single key"
  | other => mismatch other "string or map"

def textOfJson : Json → Except String String
  | .string s => .ok s
  | other => mismatch other "a string"

def optionalTextOfJson : Json → Except String (Option String)
  | .null => .ok none
  | other => (textOfJson other).map some

def boolOfJson : Json → Except String Bool
  | .bool b => .ok b
  | other => mismatch other "a boolean"

/-- The names of the fields, in order. -/
def fieldNames : List String :=
  ["validation", "api_version", "default_dialog", "validate_on_reload"]

/-- Settings with one field replaced. -/
def withField (s : Settings) (name : String) (value : Json) : Except String Settings :=
  match name with
  | "validation" => do return { s with validation := ← policyOfJson value }
  | "api_version" => do return { s with apiVersion := ← textOfJson value }
  | "default_dialog" => do return { s with defaultDialog := ← optionalTextOfJson value }
  | "validate_on_reload" => do return { s with validateOnReload := ← boolOfJson value }
  | _ => .ok s

def withFields (s : Settings) (fields : List (String × Json)) : Except String Settings :=
  fields.foldlM (fun s field ↦ s.withField field.1 field.2) s

/-- Reads settings from an interchange value. -/
def ofJson : Json → Except String Settings
  | .object entries => withFields {} entries
  | .array items => do
      let s ← withFields {} (fieldNames.zip items)
      if items.length ≤ fieldNames.length then return s
      else
        throw ("invalid length " ++ toString items.length ++
          ", expected fewer elements in array")
  | other => mismatch other "struct EngineSettings"

end Settings

end DialogKit
