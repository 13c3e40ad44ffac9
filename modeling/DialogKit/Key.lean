import DialogKit.Json.Reader
import DialogKit.Json.Writer
import DialogKit.Text.Blank
import DialogKit.Text.Casing

/-!
# Keys

The names of custom actions, such as `shop:buy/sword`: a namespace and a value, both in lowercase
and from small sets of characters. A key is only ever made by `Key.make?`, which trims and lowers
the two parts, so equal keys have equal texts.
-/

namespace DialogKit

namespace Key

/-- The characters of a namespace: lowercase ASCII letters, digits, dot, low line and hyphen. -/
def isNamespaceChar (c : Char) : Bool :=
  c.isLower || c.isDigit || c == '.' || c == '_' || c == '-'

/-- The characters of a value: those of a namespace and the slash. -/
def isValueChar (c : Char) : Bool :=
  isNamespaceChar c || c == '/'

def isNamespace (s : String) : Bool :=
  !s.toList.isEmpty && s.toList.all isNamespaceChar

def isValue (s : String) : Bool :=
  !s.toList.isEmpty && s.toList.all isValueChar

inductive Fault where
  | badNamespace (text : String)
  | badValue (text : String)
  | malformed (text : String)
  deriving DecidableEq, Repr

def Fault.message : Fault → String
  | .badNamespace text => "invalid key namespace '" ++ text ++ "': expected [a-z0-9._-]+"
  | .badValue text => "invalid key value '" ++ text ++ "': expected [a-z0-9._/-]+"
  | .malformed text => "malformed key '" ++ text ++ "': expected namespace:value"

end Key

structure Key where
  space : String
  value : String
  space_valid : Key.isNamespace space = true
  value_valid : Key.isValue value = true
  deriving DecidableEq

namespace Key

/-- The text of a key: its parts with a colon between them. -/
def text (k : Key) : String :=
  k.space ++ ":" ++ k.value

/-- The form of a key part: without blanks around it, in lowercase. -/
def normalise (part : String) : String :=
  Text.lower (Text.trim part)

/-- The key with the given parts. -/
def make? (space value : String) : Except Fault Key :=
  let space := normalise space
  let value := normalise value
  if hs : isNamespace space = true then
    if hv : isValue value = true then .ok ⟨space, value, hs, hv⟩ else .error (.badValue value)
  else .error (.badNamespace space)

/-- The characters before and after the first colon. -/
def splitAtColon? : List Char → Option (List Char × List Char)
  | [] => none
  | c :: rest =>
      if c == ':' then some ([], rest)
      else (splitAtColon? rest).map fun (before, after) ↦ (c :: before, after)

/-- Reads the text of a key: its parts around the first colon, neither of them empty. -/
def parse? (text : String) : Except Fault Key :=
  match splitAtColon? (Text.trim text).toList with
  | some (space@(_ :: _), value@(_ :: _)) => make? (String.ofList space) (String.ofList value)
  | _ => .error (.malformed text)

/-- Why an interchange text holds no key. -/
inductive TextFault where
  | json (fault : Json.Fault)
  | key (fault : Fault)

def TextFault.message : TextFault → String
  | .json fault => fault.message
  | .key fault => fault.message

/-- Reads a key from an interchange text that holds one string. -/
def ofJsonText (source : String) : Except TextFault Key := do
  let (text, c) ← (Json.readStringDocument source).mapError .json
  let key ← (parse? text).mapError .key
  (Json.finish c).mapError .json
  return key

def toJsonText (k : Key) : String :=
  Json.renderString k.text

/-- How a key shows in diagnostics. -/
def debug (k : Key) : String :=
  "Key(" ++ k.text ++ ")"

end Key

end DialogKit
