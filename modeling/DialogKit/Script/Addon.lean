import DialogKit.Addon.Manage
import DialogKit.Script.Handler
import DialogKit.Script.Kind

/-!
# Scripted addons

Addons written down as two lists of steps, for enabling and for disabling. An addon keeps the
numbers of its registrations in mind until it takes them back. A step that only makes sense while
an addon is enabled does nothing while it is disabled.
-/

namespace DialogKit

mutual

inductive AddonStep where
  | say (text : String)
  /-- Tells the host about the context of the addon. -/
  | context
  /-- Registers a handler; the addon fails if the text is no key. -/
  | register (key : String) (script : Script)
  | kind (kind : ScriptedKind)
  /-- Takes back the registrations of the addon. -/
  | unregisterOwn
  | enable (addon : ScriptedAddon)
  | fail (reason : String)

inductive ScriptedAddon where
  | mk (id version : String) (onEnable onDisable : List AddonStep)

end

instance : Inhabited ScriptedAddon := ⟨.mk "" "" [] []⟩

namespace ScriptedAddon

def id : ScriptedAddon → String
  | mk id _ _ _ => id

def version : ScriptedAddon → String
  | mk _ version _ _ => version

/-- A program of a scripted addon. -/
abbrev M := Program (AddonRequest ScriptedAddon Script Script.Running) AddonRequest.Answer

def note {α : Type} (text : String) (rest : M α) : M α :=
  .ask (.act (.note text)) fun _ ↦ rest

/-- Takes back registrations, one after the other. -/
def unregisterEach {α : Type} (rest : M α) : List Nat → M α
  | [] => rest
  | id :: ids => .ask (.act (.unregister id)) fun _ ↦ unregisterEach rest ids

/-- The text that tells what came of enabling a further addon. -/
def nestedText : Except AddonFault Bool → String
  | .ok enabled => "nested enable " ++ if enabled then "true" else "false"
  | .error fault => "nested enable " ++ fault.message

def enableNested {α : Type} (addon : ScriptedAddon) (rest : M α) : M α :=
  .ask (.enable addon) fun result ↦ note (nestedText result) rest

/-- The steps of enabling; `own` are the registrations made so far. -/
def enableSteps (cx : AddonContext) : List Nat → List AddonStep → M (Except String (List Nat))
  | own, [] => .finish (.ok own)
  | own, step :: steps =>
      match step with
      | .say text => note (cx.addon ++ ": " ++ text) (enableSteps cx own steps)
      | .context =>
          note (cx.addon ++ " " ++ cx.apiVersion ++ " " ++ cx.debug) (enableSteps cx own steps)
      | .register text script =>
          match Key.parse? text with
          | .error fault => .finish (.error fault.message)
          | .ok key =>
              .ask (.act (.register key script)) fun id ↦ enableSteps cx (own ++ [id]) steps
      | .kind scripted => .ask (.addKind scripted.kind) fun _ ↦ enableSteps cx own steps
      | .unregisterOwn => unregisterEach (enableSteps cx [] steps) own
      | .enable addon => enableNested addon (enableSteps cx own steps)
      | .fail reason => .finish (.error reason)

/-- The steps of disabling. -/
def disableSteps (id : String) : List Nat → List AddonStep → M (Except String Unit)
  | _, [] => .finish (.ok ())
  | own, step :: steps =>
      match step with
      | .say text => note (id ++ ": " ++ text) (disableSteps id own steps)
      | .unregisterOwn => unregisterEach (disableSteps id [] steps) own
      | .enable addon => enableNested addon (disableSteps id own steps)
      | .fail reason => .finish (.error reason)
      | .context | .register _ _ | .kind _ => disableSteps id own steps

def kit : AddonKit ScriptedAddon (List Nat) Script Script.Running where
  id := id
  version := version
  onEnable | mk _ _ steps _, cx => enableSteps cx [] steps
  onDisable | mk id _ _ steps, own => disableSteps id own steps

mutual

/-- How deep addons enable one another. -/
def depth : ScriptedAddon → Nat
  | mk _ _ onEnable onDisable => 1 + max (stepsDepth onEnable) (stepsDepth onDisable)

def stepsDepth : List AddonStep → Nat
  | [] => 0
  | step :: steps => max (stepDepth step) (stepsDepth steps)

def stepDepth : AddonStep → Nat
  | .enable addon => addon.depth
  | _ => 0

end

end ScriptedAddon

end DialogKit
