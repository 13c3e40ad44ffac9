import DialogKit.Kind.Builtin

/-!
# Sets of kinds

The kinds that dialogs may name, by their lowercase names. Adding a kind under a known name replaces
the one before. A name without a kind stands for a confirmation.
-/

namespace DialogKit

structure KindSet where
  kinds : Entries String Kind

namespace KindSet

open Log (emit)

def empty : KindSet := ⟨[]⟩

def add (set : KindSet) (kind : Kind) : Logged KindSet := do
  let name := Text.lower kind.name
  if Entries.hasKey name set.kinds then
    emit .warn "dialog_config::kinds" "replacing dialog type handler" [.bare "kind" name]
  else
    emit .debug "dialog_config::kinds" "registered dialog type handler" [.bare "kind" name]
  return ⟨Entries.insert name kind set.kinds⟩

/-- Adds one kind after the other. -/
def addAll (set : KindSet) (kinds : List Kind) : Logged KindSet :=
  kinds.foldlM add set

def builtin : Logged KindSet :=
  empty.addAll [.confirmation, .notice, .multiAction]

def get? (set : KindSet) (name : String) : Option Kind :=
  Entries.get? (Text.lower name) set.kinds

def supports (set : KindSet) (name : String) : Bool :=
  (set.get? name).isSome

/-- The names in order of their text. -/
def names (set : KindSet) : List String :=
  (Entries.keys set.kinds).mergeSort fun a b ↦ a ≤ b

def resolve (set : KindSet) (name : String) : Logged Kind :=
  match set.get? name with
  | some kind => pure kind
  | none => do
      emit .warn "dialog_config::kinds" "unsupported dialog type, using confirmation"
        [.quoted "kind" name]
      return (set.get? "confirmation").getD .confirmation

end KindSet

end DialogKit
