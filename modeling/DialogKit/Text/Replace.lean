/-!
# Replacing parts of a text

Every occurrence of a part is replaced, from left to right and without overlap; a replacement is
not searched again. The empty part occurs before every character and at the end.
-/

namespace DialogKit.Text

/-- The characters left after `part`, where they start with it. -/
def dropPart? : List Char → List Char → Option (List Char)
  | [], rest => some rest
  | _ :: _, [] => none
  | p :: part, c :: rest => if p == c then dropPart? part rest else none

/-- Replaces a part that starts with `head`; `skip` counts the characters of an occurrence that
are still to be passed over. -/
def replaceFrom (head : Char) (part by_ : List Char) : Nat → List Char → List Char
  | _, [] => []
  | skip + 1, _ :: rest => replaceFrom head part by_ skip rest
  | 0, c :: rest =>
      match dropPart? (head :: part) (c :: rest) with
      | some _ => by_ ++ replaceFrom head part by_ part.length rest
      | none => c :: replaceFrom head part by_ 0 rest

def replaceChars (part by_ : List Char) (cs : List Char) : List Char :=
  match part with
  | [] => by_ ++ cs.flatMap fun c ↦ c :: by_
  | head :: part => replaceFrom head part by_ 0 cs

/-- Replaces every occurrence of `part`. -/
def replaceAll (part by_ s : String) : String :=
  String.ofList (replaceChars part.toList by_.toList s.toList)

/-- Replaces every occurrence of each part by what it is paired with, one pair after the other. -/
def replaceEach (pairs : List (String × String)) (s : String) : String :=
  pairs.foldl (fun s pair ↦ replaceAll pair.1 pair.2 s) s

/-- Whether the text has the part somewhere. -/
def hasPartChars (part : List Char) : List Char → Bool
  | [] => part.isEmpty
  | c :: rest => (dropPart? part (c :: rest)).isSome || hasPartChars part rest

def hasPart (part s : String) : Bool :=
  hasPartChars part.toList s.toList

/-- Whether the text starts with the part. -/
def startsWith (part s : String) : Bool :=
  (dropPart? part.toList s.toList).isSome

end DialogKit.Text
