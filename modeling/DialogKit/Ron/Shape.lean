import DialogKit.Ron.Token

/-!
# Shapes in parentheses

What stands in parentheses is told apart by a look ahead: nothing at all, an empty pair, named
fields, or items without names. Inside a wrapper that may be left out, one item is also told apart
from several. The look ahead leaves the cursor where it was but moves the mark.
-/

namespace DialogKit.Ron

inductive Shape where
  /-- No parentheses. -/
  | unit
  | emptyItems
  | named
  /-- Items without names, not counted. -/
  | items
  | oneItem
  | severalItems
  deriving DecidableEq, Repr

/-- Steps over what the reader accepts. A text that does not end is a failure; any other fault
leaves the cursor where it was. -/
def passText {α : Type} (read : Reader α) (c : Cursor) : Except Stop Cursor :=
  match read c with
  | .ok (_, c) => .ok c
  | .error stopped =>
      match stopped.cause with
      | .expectedStringEnd | .endOfText => .error stopped
      | _ => .ok (stopped.cursor.backTo c)

/-- Steps over a character in quotes, if one is next. -/
def passQuotedChar (c : Cursor) : Cursor :=
  match readChar c with
  | .ok (_, c) => c
  | .error stopped => stopped.cursor.backTo c

/-- Whether a second item follows the first within the open brackets. -/
def hasSecondItem : Nat → Nat → Cursor → Except Stop (Bool × Cursor)
  | _, 0, c => .ok (false, c)
  | 0, _, c => c.stop .endOfText
  | bound + 1, brackets + 1, c => do
      let c ← skipSpace c
      let c := passQuotedChar c
      let c ← passText readString c
      let c ← passText readByteString c
      let (head, c) ← c.nextChar
      if ['(', '[', '{'].contains head then hasSecondItem bound (brackets + 2) c
      else if [')', ']', '}'].contains head then hasSecondItem bound brackets c
      else if head == ',' && brackets == 0 then
        let c ← skipSpace c
        return (!c.nextIs ')', c)
      else hasSecondItem bound (brackets + 1) c

/-- The shape of what follows the opening parenthesis; `exact` asks to tell one item from several. -/
def shapeInside (exact : Bool) : Reader Shape := fun c ↦ do
  let investigate (c : Cursor) : Except Stop (Shape × Cursor) :=
    if !exact then .ok (.items, c)
    else do
      let (several, c) ← hasSecondItem (c.rest.length + 1) 1 c
      return (if several then .severalItems else .oneItem, c)
  match passIdentifier? c with
  | none => investigate c
  | some c =>
      let c ← skipSpace c
      match c.rest with
      | ':' :: _ => return (.named, c)
      | ',' :: _ =>
          let c ← skipSpace c.pastOne
          return (if c.nextIs ')' then .oneItem else .severalItems, c)
      | ')' :: _ => return (.oneItem, c)
      | _ => investigate c

/-- The shape of what is next, with its parentheses. -/
def lookAhead : Reader Shape := fun c ↦
  match c.pass? "(" with
  | none => .ok (.unit, c)
  | some inner => do
      let inner ← skipSpace inner
      if inner.nextIs ')' then return (.emptyItems, inner.backTo c)
      else
        let (shape, after) ← shapeInside false inner
        return (shape, after.backTo c)

/-- The shape of what stands inside a wrapper of which the parenthesis is passed. -/
def lookInside : Reader Shape := fun c ↦ do
  let inner ← skipSpace c
  let (shape, after) ← shapeInside true inner
  return (shape, after.backTo c)

end DialogKit.Ron
