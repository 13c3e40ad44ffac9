/-!
# Sets of code points

A property of characters is stored as the increasing list of the code points at which it changes,
starting from "does not hold". Membership walks the list once.
-/

namespace DialogKit.Text

/-- The code points at which membership flips, in increasing order. -/
abbrev CodePointSet := List Nat

namespace CodePointSet

def holdsAt : CodePointSet → Nat → Bool
  | [], _ => false
  | flip :: rest, n => if n < flip then false else !holdsAt rest n

def contains (set : CodePointSet) (c : Char) : Bool :=
  holdsAt set c.toNat

end CodePointSet

end DialogKit.Text
