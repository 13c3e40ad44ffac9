import DialogKit.Document.Source
import DialogKit.Engine.Settings

/-!
# Settings as text

Settings in object notation: named fields in parentheses, with or without the name of the structure
before them. A field may be given once; unknown fields are passed over, whatever they hold.
-/

namespace DialogKit.Settings

open Ron (Cursor Reader Stop)

/-- The name of the structure. -/
def structName : String := "EngineSettings"

/-- The fields read so far. -/
structure Given where
  validation : Option Validation.Policy := none
  apiVersion : Option String := none
  defaultDialog : Option (Option String) := none
  validateOnReload : Option Bool := none

/-- The given fields, and defaults for the others. -/
def Given.settings (g : Given) : Settings :=
  let s : Settings := {}
  { validation := g.validation.getD s.validation
    apiVersion := g.apiVersion.getD s.apiVersion
    defaultDialog := g.defaultDialog.getD s.defaultDialog
    validateOnReload := g.validateOnReload.getD s.validateOnReload }

/-- Steps over the name of the structure, if one is there. -/
def passStructName (extensions : Ron.Extensions) (c : Cursor) : Except Stop Cursor :=
  if !Ron.nextIsIdentifierPart c then
    if extensions.explicitStructNames then c.stop (.expectedStructName structName) else .ok c
  else
    match Ron.readIdentifier c with
    | .error stopped => stopped.cursor.stop (.expectedNamedStruct structName)
    | .ok (name, c) =>
        if name == structName then .ok c else c.stop (.otherStructName structName name)

def readPolicy : Reader Validation.Policy := fun c ↦ do
  let (name, c) ← Ron.readIdentifier (← Ron.skipSpace c)
  match policy? name with
  | some policy => return (policy, c)
  | none => c.stop (.noSuchVariant name "ValidationPolicy" "advisory" "block_on_error")

def readBool : Reader Bool := fun c ↦
  match c.passWord? "true" with
  | some c => .ok (true, c)
  | none =>
      match c.passWord? "false" with
      | some c => .ok (false, c)
      | none => c.stop .expectedBoolean

def readOptionalText (rules : Ron.Rules) : Reader (Option String) :=
  Ron.readOption rules none fun _ c ↦ do
    let (s, c) ← Ron.readString c
    return (some s, c)

/-- The value of a field that is not given yet. -/
def readOnce {α : Type} (name : String) (known : Option α) (value : Reader α) : Reader α :=
  fun c ↦
    match known with
    | some _ => c.stop (.duplicateField name structName)
    | none => Ron.readEntryValue value c

/-- The value of the field with the given name. -/
def readField (rules : Ron.Rules) (given : Given) (name : String) : Reader Given := fun c ↦
  match name with
  | "validation" => do
      let (policy, c) ← readOnce name given.validation readPolicy c
      return ({ given with validation := some policy }, c)
  | "api_version" => do
      let (version, c) ← readOnce name given.apiVersion Ron.readString c
      return ({ given with apiVersion := some version }, c)
  | "default_dialog" => do
      let (id, c) ← readOnce name given.defaultDialog (readOptionalText rules) c
      return ({ given with defaultDialog := some id }, c)
  | "validate_on_reload" => do
      let (b, c) ← readOnce name given.validateOnReload readBool c
      return ({ given with validateOnReload := some b }, c)
  | _ => do
      let (_, c) ← Ron.readEntryValue (Ron.readAny rules (Ron.levelLimit - 2) false) c
      return (given, c)

/-- The fields up to the closing parenthesis, which is not taken. -/
def readFields (rules : Ron.Rules) : Nat → Bool → Given → Reader Given
  | 0, _, _, c => c.stop .endOfText
  | bound + 1, comma, given, c => do
      match ← Ron.hasItem comma ')' c with
      | (false, c) => return (given, c)
      | (true, c) =>
          let (name, c) ← Ron.readIdentifier c
          let (given, c) ← readField rules given name c
          let (comma, c) ← Ron.passComma c
          readFields rules bound comma given c

def readRon (source : String) : Except Stop Settings := do
  let (extensions, c) ← Ron.readStart source
  let c ← Ron.skipSpace (← passStructName extensions c)
  let c ← c.expectChar '(' (.expectedNamedStruct structName)
  let rules : Ron.Rules := { extensions, ignoring := true }
  let (given, c) ← readFields rules (c.rest.length + 1) true {} c
  let (settings, c) ← Ron.close ')' .expectedStructEnd given.settings c
  Ron.finish c
  return settings

/-- Reads settings from a text in object notation. -/
def ofRonText (source : String) : Except Source.Fault Settings :=
  (readRon source).mapError (Source.Fault.ofStop source)

end DialogKit.Settings
