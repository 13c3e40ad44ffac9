import DialogKit.Program
import DialogKit.Registry.Basic
import DialogKit.Registry.Context

/-!
# Delivering actions

An action is delivered to the listeners that are registered under its key when delivery starts, in
the order of registration. A listener that has become inactive by its turn is passed over. Handlers
are programs: while they run they may use the registry and deliver further actions. Failures and
breakdowns are counted and reported, and the next listener still gets its turn.

Delivery within delivery is bounded by a count of levels; there is no result if it is exceeded.
-/

namespace DialogKit

/-- What a handler may ask for; `H` is the type of handlers and `σ` the state of the host. -/
inductive Request (H σ : Type) where
  /-- Changes the state of the host and reads the new one. -/
  | update (change : σ → σ)
  | note (text : String)
  | reply (cx : Context) (message : String)
  | register (key : Key) (handler : H)
  | unregister (id : Nat)
  | unregisterAll (key : Key)
  | clear
  | count (key : Key)
  | dispatch (cx : Context)

/-- The answers to a request. -/
abbrev Request.Answer {H σ : Type} : Request H σ → Type
  | .update _ => σ
  | .note _ | .reply _ _ | .unregister _ => Unit
  | .register _ _ | .unregisterAll _ | .clear | .count _ => Nat
  | .dispatch _ => Outcome

/-- A program that uses a registry. -/
abbrev RegistryProgram (H σ α : Type) := Program (Request H σ) Request.Answer α

/-- What each handler does with a triggered action. -/
abbrev Handling (H σ : Type) := H → Context → RegistryProgram H σ Ending

/-- A registry together with the state of the host, and all effects so far. -/
structure World (H σ : Type) where
  registry : Registry H
  host : σ
  effects : List Effect := []

/-- A computation in a world; there is no result if it needs too many levels. -/
abbrev WorldM (H σ : Type) := StateT (World H σ) Option

namespace World

variable {H σ : Type}

def perform {α : Type} (x : Effectful α) : WorldM H σ α :=
  modifyGet fun w ↦ (x.result, { w with effects := w.effects ++ x.notes })

def report (level : Log.Level) (message : String) (fields : List Log.Field) : WorldM H σ Unit :=
  perform (Effectful.log level "dialog_actions::registry" message fields)

/-- Applies an operation of the registry. -/
def onRegistry {α : Type} (operation : Registry H → α × Registry H) : WorldM H σ α :=
  modifyGet fun w ↦
    let (result, registry) := operation w.registry
    (result, { w with registry })

def register (key : Key) (handler : H) : WorldM H σ Nat := do
  let id ← onRegistry fun r ↦ r.register key handler
  report .debug "registered action handler" [.bare "key" key.text, .nat "listener" id]
  return id

def unregister (id : Nat) : WorldM H σ Unit := do
  match ← onRegistry fun r ↦ r.unregister id with
  | some key =>
      report .debug "unregistered action handler" [.bare "key" key.text, .nat "listener" id]
  | none => return ()

def unregisterAll (key : Key) : WorldM H σ Nat := do
  match ← onRegistry fun r ↦ r.unregisterAll key with
  | some removed =>
      report .info "unregistered action handlers" [.bare "key" key.text, .nat "removed" removed]
      return removed
  | none => return 0

def clear : WorldM H σ Nat := do
  let removed ← onRegistry fun r ↦ r.clear
  report .info "cleared action registry" [.nat "removed" removed]
  return removed

def count (key : Key) : WorldM H σ Nat :=
  return (← get).registry.count key

/-- Answers a request; `dispatch` delivers actions. -/
def serve (dispatch : Context → WorldM H σ Outcome) : (r : Request H σ) → WorldM H σ r.Answer
  | .update change => modifyGet fun w ↦ (change w.host, { w with host := change w.host })
  | .note text => perform (Journal.note (.note text))
  | .reply cx message => perform (cx.reply message)
  | .register key handler => register key handler
  | .unregister id => unregister id
  | .unregisterAll key => unregisterAll key
  | .clear => clear
  | .count key => count key
  | .dispatch cx => dispatch cx

/-- Reports a handler that did not end well. -/
def reportEnding (l : Listener H) : Ending → WorldM H σ Unit
  | .done => return ()
  | .failed fault =>
      report .warn "action handler failed"
        [.bare "key" l.key.text, .nat "listener" l.id, .bare "error" fault.message]
  | .panicked message =>
      report .error "action handler panicked"
        [.bare "key" l.key.text, .nat "listener" l.id,
          .bare "panic" (message.getD "non-string panic payload")]

/-- Gives each listener its turn; the endings are those of the listeners that were called. -/
def deliver (call : Listener H → WorldM H σ Ending) : List (Listener H) → WorldM H σ (List Ending)
  | [] => return []
  | l :: rest => do
      if (← get).registry.isActive l.id then
        let ending ← call l
        reportEnding l ending
        return ending :: (← deliver call rest)
      else deliver call rest

/-- Delivers an action to the listeners of its key. -/
def deliverTo (call : Listener H → WorldM H σ Ending) (key : Key) : WorldM H σ Outcome := do
  match ← onRegistry fun r ↦ r.reap key with
  | none =>
      report .trace "no handlers for action" [.bare "key" key.text]
      return {}
  | some (live, reaped) =>
      let outcome := Outcome.ofEndings (← deliver call live) reaped
      report .trace "dispatched action" [.bare "key" key.text, .bare "outcome" outcome.debug]
      return outcome

/-- Delivers an action within so many levels. -/
def dispatch (handling : Handling H σ) : Nat → Context → WorldM H σ Outcome
  | 0, _ => fun _ ↦ none
  | levels + 1, cx =>
      deliverTo (fun l ↦ (handling l.handler cx).run (serve (dispatch handling levels))) cx.key

end World

end DialogKit
