import DialogKit.Text.Identifier
import DialogKit.Text.Quoted

/-!
# Faults in object notation

Why a text does not follow the object notation, and the wording of each reason.
-/

namespace DialogKit.Ron

inductive Cause where
  | endOfText
  | expectedList
  | expectedListEnd
  | expectedAttribute
  | expectedAttributeEnd
  | expectedBoolean
  | expectedByteLiteral
  | expectedByteString
  | expectedChar
  | expectedComma
  | expectedFloat
  | expectedIdentifier
  | expectedInteger
  | expectedMap
  | expectedMapColon
  | expectedMapEnd
  | expectedOption
  | expectedString
  | expectedStringEnd
  | expectedStruct
  | expectedStructEnd
  | expectedNamedStruct (name : String)
  | expectedStructName (name : String)
  | otherStructName (expected found : String)
  | floatUnderscore
  | leadingUnderscore
  | integerOutOfBounds
  | invalidDigit (digit : Char) (base : Nat)
  | invalidEscape (text : String)
  | badByteEscape
  | noSuchExtension (name : String)
  | suggestRawIdentifier (name : String)
  | tooDeep
  | trailingCharacters
  | unclosedComment
  | unexpectedChar (c : Char)
  | wrongValue (expected found : String)
  | duplicateField (field outer : String)
  | noSuchVariant (found outer : String) (first second : String)
  deriving DecidableEq, Repr

/-- A character that an identifier may have in its raw form. -/
def isRawPart (c : Char) : Bool :=
  c == '.' || c == '+' || c == '-' || Text.isIdentifierPart c

/-- Whether a name is an identifier without the mark of the raw form. -/
def isPlainIdentifier (name : String) : Bool :=
  match name.toList with
  | [] => false
  | first :: rest => Text.isIdentifierStart first && rest.all Text.isIdentifierPart

/-- A name as messages show it. -/
def showIdentifier (name : String) : String :=
  if name.isEmpty || !name.toList.all isRawPart then
    Text.quoted name ++ "_[invalid identifier]"
  else if isPlainIdentifier name then "`" ++ name ++ "`"
  else "`r#" ++ name ++ "`"

def Cause.message : Cause → String
  | .endOfText => "Unexpected end of RON"
  | .expectedList => "Expected opening `[`"
  | .expectedListEnd => "Expected closing `]`"
  | .expectedAttribute => "Expected an `#![enable(...)]` attribute"
  | .expectedAttributeEnd => "Expected closing `)]` after the enable attribute"
  | .expectedBoolean => "Expected boolean"
  | .expectedByteLiteral => "Expected byte literal"
  | .expectedByteString => "Expected byte string"
  | .expectedChar => "Expected char"
  | .expectedComma => "Expected comma"
  | .expectedFloat => "Expected float"
  | .expectedIdentifier => "Expected identifier"
  | .expectedInteger => "Expected integer"
  | .expectedMap => "Expected opening `\x7b`"
  | .expectedMapColon => "Expected colon"
  | .expectedMapEnd => "Expected closing `\x7d`"
  | .expectedOption => "Expected option"
  | .expectedString => "Expected string"
  | .expectedStringEnd => "Expected end of string"
  | .expectedStruct => "Expected opening `(`"
  | .expectedStructEnd => "Expected closing `)`"
  | .expectedNamedStruct name =>
      if name.isEmpty then "Expected only opening `(`, no name, for un-nameable struct"
      else "Expected opening `(` for struct " ++ showIdentifier name
  | .expectedStructName name =>
      "Expected the explicit struct name " ++ showIdentifier name ++ ", but none was found"
  | .otherStructName expected found =>
      "Expected struct " ++ showIdentifier expected ++ " but found " ++ showIdentifier found
  | .floatUnderscore => "Unexpected underscore in float"
  | .leadingUnderscore => "Unexpected leading underscore in a number"
  | .integerOutOfBounds => "Integer is out of bounds"
  | .invalidDigit digit base =>
      "Invalid digit " ++ Text.quotedChar digit ++ " for base " ++ toString base ++ " integers"
  | .invalidEscape text => text
  | .badByteEscape => "Not a valid byte-escaped Unicode character"
  | .noSuchExtension name => "No RON extension named " ++ showIdentifier name
  | .suggestRawIdentifier name =>
      "Found invalid std identifier " ++ Text.quoted name ++ ", try the raw identifier `r#" ++
        name ++ "` instead"
  | .tooDeep =>
      "Exceeded recursion limit, try increasing `ron::Options::recursion_limit` and using " ++
        "`serde_stacker` to protect against a stack overflow"
  | .trailingCharacters => "Non-whitespace trailing characters"
  | .unclosedComment => "Unclosed block comment"
  | .unexpectedChar c => "Unexpected char " ++ Text.quotedChar c
  | .wrongValue expected found => "Expected " ++ expected ++ " but found " ++ found ++ " instead"
  | .duplicateField field outer =>
      "Unexpected duplicate field named " ++ showIdentifier field ++ " in " ++ showIdentifier outer
  | .noSuchVariant found outer first second =>
      "Unexpected variant named " ++ showIdentifier found ++ " in enum " ++ showIdentifier outer ++
        ", expected either `" ++ first ++ "` or `" ++ second ++ "` instead"

end DialogKit.Ron
