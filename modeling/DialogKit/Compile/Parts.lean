import DialogKit.Component.Body

/-!
# Inputs and body elements of a dialog

The components that can be built, in order. Each entry that is left out is reported with its place
and the reason. An input whose id is already taken is left out; an input that could not be built
takes no id.
-/

namespace DialogKit.Compile

open Log (emit)

def skipped (dialog : String) (element : Element) (index : Nat) (skip : Skip) : Logged Unit :=
  emit .warn "dialog_config::compile" "skipping dialog element"
    [.quoted "dialog" dialog, .quoted "element" element.name, .nat "index" index,
      .bare "reason" skip.message]

/-- The inputs from the entry `index` on, where the ids in `taken` are no longer free. -/
def inputsFrom (dialog : String) (host : Host) :
    Nat → List String → List ListItem → Logged (List Input)
  | _, _, [] => pure []
  | index, taken, item :: rest =>
      match item with
      | .scalar _ => do
          skipped dialog .input index (.notAMap .input)
          inputsFrom dialog host (index + 1) taken rest
      | .part part => do
          match ← (Component.input part host).run with
          | .error skip =>
              skipped dialog .input index skip
              inputsFrom dialog host (index + 1) taken rest
          | .ok input =>
              if taken.contains input.id then
                skipped dialog .input index (.duplicateId input.id)
                inputsFrom dialog host (index + 1) taken rest
              else
                return input :: (← inputsFrom dialog host (index + 1) (input.id :: taken) rest)

def inputs (dialog : String) (host : Host) (root : Document) : Logged (List Input) :=
  inputsFrom dialog host 0 [] (root.items "inputs")

/-- The body elements from the entry `index` on. -/
def bodiesFrom (dialog : String) (host : Host) :
    Nat → List ListItem → Logged (List BodyElement)
  | _, [] => pure []
  | index, item :: rest =>
      match item with
      | .scalar _ => do
          skipped dialog .body index (.notAMap .body)
          bodiesFrom dialog host (index + 1) rest
      | .part part =>
          match Component.body part host with
          | .error skip => do
              skipped dialog .body index skip
              bodiesFrom dialog host (index + 1) rest
          | .ok element => return element :: (← bodiesFrom dialog host (index + 1) rest)

def bodies (dialog : String) (host : Host) (root : Document) : Logged (List BodyElement) :=
  bodiesFrom dialog host 0 (root.items "bodies")

end DialogKit.Compile
