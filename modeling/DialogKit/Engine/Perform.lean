import DialogKit.Engine.Basic

/-!
# Performing actions

What an engine does when a player clicks a button or the host reports a custom click. A custom
action is delivered to the handlers of its key; an action that needs a player is refused without
one.
-/

namespace DialogKit

/-- What came of a button's action. -/
inductive Performed where
  | close
  | goBack
  | copied (text : String)
  /-- The dialog to show next. -/
  | shown (dialog : Definition)
  | url (url : String)
  /-- The command that ran. -/
  | command (command : String)
  | suggested (command : String)
  | dispatched (outcome : Outcome)

namespace Engine

variable {A M H σ : Type}

/-- Delivers a custom action of a player. -/
def dispatch (b : Behaviour A M H σ) (levels : Nat) (key : Key) (payload : Payload)
    (player : Player) : EngineM A M H σ Outcome := do
  let replies := (← get).replies
  inWorld (World.dispatch b.handling levels { key, payload, player, replies })

/-- Delivers a custom click that the host reports by the parts of its key. -/
def click (b : Behaviour A M H σ) (levels : Nat) (space value : String) (payload : Payload)
    (player : Player) : EngineM A M H σ (Except EngineFault Outcome) := do
  match Key.make? space value with
  | .ok key => return .ok (← dispatch b levels key payload player)
  | .error fault =>
      report .warn "dropping custom click with invalid key"
        [.quoted "namespace" space, .quoted "value" value, .bare "error" fault.message]
      return .error (.key fault)

/-- Carries out the action of a button. -/
def performAction (b : Behaviour A M H σ) (levels : Nat) (action : Action)
    (viewer : Option Viewer) (payload : Payload) :
    EngineM A M H σ (Except EngineFault Performed) := do
  let runner := (← get).runner
  match action with
  | .close => return .ok .close
  | .goBack => return .ok .goBack
  | .copyToClipboard text => return .ok (.copied text)
  | .showDialog _ dialog => return .ok (.shown dialog)
  | .openUrl url => return .ok (.url url)
  | .runCommand template scope =>
      match ← perform (runner.run template scope viewer).run with
      | .ok command => return .ok (.command command)
      | .error fault => return .error (.command fault)
  | .suggestCommand template =>
      match viewer with
      | none => return .error (.command (.noPlayer "suggest_command"))
      | some v => return .ok (.suggested (← perform (runner.suggest template v)))
  | .custom key =>
      match viewer with
      | none => return .error (.command (.noPlayer key.text))
      | some v => return .ok (.dispatched (← dispatch b levels key payload v.player))

/-- Enables an addon; tells whether it was enabled. -/
def enableAddon (b : Behaviour A M H σ) (levels : Nat) (addon : A) :
    EngineM A M H σ (Except AddonFault Bool) :=
  onPlatform ((Platform.management b.kit b.handling levels).enable addon)

/-- Disables the addon with the given id; tells whether there was one. -/
def disableAddon (b : Behaviour A M H σ) (levels : Nat) (id : String) :
    EngineM A M H σ (Except AddonFault Bool) :=
  onPlatform ((Platform.management b.kit b.handling levels).disable id)

/-- The ids and versions of the enabled addons. -/
def addons (b : Behaviour A M H σ) (e : Engine A M H σ) : List (String × String) :=
  e.platform.enabled.map fun entry ↦ (b.kit.id entry.addon, b.kit.version entry.addon)

/-- Disables all addons, then takes back every registration. -/
def shutdown (b : Behaviour A M H σ) (levels : Nat) : EngineM A M H σ Unit := do
  let addons ← onPlatform (Platform.management b.kit b.handling levels).disableAll
  let handlers ← inWorld World.clear
  report .info "dialog engine shut down" [.nat "addons" addons, .nat "handlers" handlers]

end Engine

end DialogKit
