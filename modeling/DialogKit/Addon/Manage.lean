import DialogKit.Addon.Basic

/-!
# Managing addons

An addon is enabled unless its id is taken by one that is enabled or being enabled. Its program runs
before it is listed; if the program fails, the addon is dropped. A disabled addon leaves the list
before its program runs, and stays off it if the program fails. All addons are disabled in the
reverse of the order in which they were enabled.

Enabling within enabling is bounded by a count of levels; there is no result if it is exceeded.
-/

namespace DialogKit

/-- A computation on a platform; there is no result if it needs too many levels. -/
abbrev PlatformM (A M H σ : Type) := StateT (Platform A M H σ) Option

namespace Platform

variable {A M H σ : Type}

def inWorld {α : Type} (x : WorldM H σ α) : PlatformM A M H σ α := fun p ↦
  (x p.world).map fun (result, world) ↦ (result, { p with world })

def report (level : Log.Level) (message : String) (fields : List Log.Field) :
    PlatformM A M H σ Unit :=
  inWorld (World.perform (Effectful.log level "dialog_engine::addons" message fields))

def addKind (kind : Kind) : PlatformM A M H σ Unit := do
  let kinds ← inWorld (World.perform (.ofLogged ((← get).kinds.add kind)))
  modify fun p ↦ { p with kinds }

/-- Whether an id belongs to an addon that is enabled or being enabled. -/
def isTaken (kit : AddonKit A M H σ) (p : Platform A M H σ) (id : String) : Bool :=
  p.starting.contains id || p.enabled.any fun entry ↦ kit.id entry.addon == id

/-- Enables an addon; `run` runs its program. Tells whether it was enabled. -/
def enableWith (kit : AddonKit A M H σ)
    (run : AddonProgram A H σ (Except String M) → PlatformM A M H σ (Except String M))
    (addon : A) : PlatformM A M H σ (Except AddonFault Bool) := do
  let id := kit.id addon
  let p ← get
  if isTaken kit p id then
    report .warn "addon already loaded, skipping" [.bare "addon" id]
    return .ok false
  else
    modify fun p ↦ { p with starting := p.starting ++ [id] }
    let result ← run (kit.onEnable addon ⟨id, p.apiVersion⟩)
    modify fun p ↦ { p with starting := p.starting.erase id }
    match result with
    | .error reason =>
        report .error "failed to enable addon" [.bare "addon" id, .bare "error" reason]
        return .error ⟨id, reason⟩
    | .ok memory =>
        report .info "addon enabled" [.bare "addon" id, .quoted "version" (kit.version addon)]
        modify fun p ↦ { p with enabled := p.enabled ++ [⟨addon, memory⟩] }
        return .ok true

/-- Runs the program of an addon that has left the list. -/
def shutDown (kit : AddonKit A M H σ)
    (run : AddonProgram A H σ (Except String Unit) → PlatformM A M H σ (Except String Unit))
    (entry : EnabledAddon A M) : PlatformM A M H σ (Except AddonFault Unit) := do
  let id := kit.id entry.addon
  match ← run (kit.onDisable entry.addon entry.memory) with
  | .ok () =>
      report .info "addon disabled" [.bare "addon" id]
      return .ok ()
  | .error reason =>
      report .error "error disabling addon" [.bare "addon" id, .bare "error" reason]
      return .error ⟨id, reason⟩

/-- Disables the addon with the given id; tells whether there was one. -/
def disableWith (kit : AddonKit A M H σ)
    (run : AddonProgram A H σ (Except String Unit) → PlatformM A M H σ (Except String Unit))
    (id : String) : PlatformM A M H σ (Except AddonFault Bool) := do
  let p ← get
  match p.enabled.find? fun entry ↦ kit.id entry.addon == id with
  | none =>
      report .warn "no such addon loaded" [.quoted "addon" id]
      return .ok false
  | some entry =>
      modify fun p ↦
        { p with enabled := p.enabled.eraseP fun entry ↦ kit.id entry.addon == id }
      return (← shutDown kit run entry).map fun _ ↦ true

/-- Shuts down one addon after the other; counts those that did not fail. -/
def shutDownAll (kit : AddonKit A M H σ)
    (run : AddonProgram A H σ (Except String Unit) → PlatformM A M H σ (Except String Unit)) :
    List (EnabledAddon A M) → PlatformM A M H σ Nat
  | [] => return 0
  | entry :: rest => do
      let result ← shutDown kit run entry
      let count ← shutDownAll kit run rest
      match result with
      | .ok () => return count + 1
      | .error _ => return count

/-- Disables every addon; counts those that did not fail. -/
def disableAllWith (kit : AddonKit A M H σ)
    (run : AddonProgram A H σ (Except String Unit) → PlatformM A M H σ (Except String Unit)) :
    PlatformM A M H σ Nat := do
  let entries := (← get).enabled
  modify fun p ↦ { p with enabled := [] }
  shutDownAll kit run entries.reverse

/-- The ways to manage addons, as far as some count of levels allows. -/
structure Management (A M H σ : Type) where
  enable : A → PlatformM A M H σ (Except AddonFault Bool)
  disable : String → PlatformM A M H σ (Except AddonFault Bool)
  disableAll : PlatformM A M H σ Nat

/-- Answers a request of an addon. -/
def serve (dispatch : Context → WorldM H σ Outcome) (management : Management A M H σ) :
    (r : AddonRequest A H σ) → PlatformM A M H σ r.Answer
  | .act request => inWorld (World.serve dispatch request)
  | .addKind kind => addKind kind
  | .enable addon => management.enable addon
  | .disable id => management.disable id
  | .disableAll => management.disableAll

/-- Manages addons within so many levels. -/
def management (kit : AddonKit A M H σ) (handling : Handling H σ) : Nat → Management A M H σ
  | 0 => ⟨fun _ _ ↦ none, fun _ _ ↦ none, fun _ ↦ none⟩
  | levels + 1 =>
      let answer := serve (World.dispatch handling levels) (management kit handling levels)
      { enable := enableWith kit (Program.run answer)
        disable := disableWith kit (Program.run answer)
        disableAll := disableAllWith kit (Program.run answer) }

end Platform

end DialogKit
