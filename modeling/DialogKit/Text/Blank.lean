/-!
# Blank text

Which characters count as blank, and text without the blanks around it. A blank is one of the 25
code points with the property White_Space; control characters such as U+001C and the zero-width
space are not blank.
-/

namespace DialogKit.Text

/-- The property White_Space. -/
def isBlank (c : Char) : Bool :=
  let n := c.toNat
  (9 ≤ n && n ≤ 13) || n == 0x20 || n == 0x85 || n == 0xA0 || n == 0x1680 ||
    (0x2000 ≤ n && n ≤ 0x200A) || n == 0x2028 || n == 0x2029 || n == 0x202F || n == 0x205F ||
    n == 0x3000

def trimStartChars (cs : List Char) : List Char :=
  cs.dropWhile isBlank

def trimEndChars (cs : List Char) : List Char :=
  (trimStartChars cs.reverse).reverse

def trimChars (cs : List Char) : List Char :=
  trimEndChars (trimStartChars cs)

/-- The text without the blanks before and after it. -/
def trim (s : String) : String :=
  String.ofList (trimChars s.toList)

/-- The text without the blanks after it. -/
def trimEnd (s : String) : String :=
  String.ofList (trimEndChars s.toList)

/-- Text that shows nothing: every character is blank. -/
def isBlankText (s : String) : Bool :=
  s.toList.all isBlank

end DialogKit.Text
