import DialogKit.Text.CaseData

/-!
# Lowercase and uppercase text

Full case mapping, under which a character may become several. The lowercase of a capital sigma
depends on its neighbours: at the end of a word it takes the final form. A sigma ends a word when
the nearest character before it that is not case-ignorable is cased, and the nearest one after it
is not.
-/

namespace DialogKit.Text

def lowerChar (c : Char) : List Char :=
  if c == 'İ' then ['i', '\u0307']
  else [((CaseRun.image? c.toNat lowerRuns).map Char.ofNat).getD c]

def upperChar (c : Char) : List Char :=
  match upperExpansions.lookup c.toNat with
  | some image => image.map Char.ofNat
  | none => [((CaseRun.image? c.toNat upperRuns).map Char.ofNat).getD c]

/-- Whether the first character that is not case-ignorable is cased. -/
def startsCased (cs : List Char) : Bool :=
  match cs.dropWhile caseIgnorable.contains with
  | [] => false
  | c :: _ => cased.contains c

/-- The lowercase of a capital sigma; `before` is read from the sigma backwards. -/
def lowerSigma (before after : List Char) : Char :=
  if startsCased before && !startsCased after then 'ς' else 'σ'

/-- The lowercase of the characters that follow `before`, which is read backwards. -/
def lowerChars (before : List Char) : List Char → List Char
  | [] => []
  | c :: after =>
      (if c == 'Σ' then [lowerSigma before after] else lowerChar c) ++ lowerChars (c :: before) after

def lower (s : String) : String :=
  String.ofList (lowerChars [] s.toList)

def upper (s : String) : String :=
  String.ofList (s.toList.flatMap upperChar)

/-- The lowercase of ASCII letters; every other character stays. -/
def lowerAscii (s : String) : String :=
  String.ofList (s.toList.map Char.toLower)

end DialogKit.Text
