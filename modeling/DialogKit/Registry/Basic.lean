import DialogKit.Entries
import DialogKit.Key

/-!
# The registry of listeners

Handlers are registered under keys. Each key has a list of listeners in the order of registration;
a key without listeners has no list. Every registration ever made stays on record with a flag that
tells whether it is active; a flag is cleared once and never set again.
-/

namespace DialogKit

/-- A handler registered under a key. -/
structure Listener (H : Type) where
  id : Nat
  key : Key
  handler : H

/-- The record of a registration. -/
structure Registration where
  id : Nat
  key : Key
  active : Bool
  deriving DecidableEq

/-- How a registration shows in diagnostics. -/
def Registration.debug (r : Registration) : String :=
  "Registration \x7b key: " ++ r.key.debug ++ ", id: " ++ toString r.id ++ ", active: " ++
    (if r.active then "true" else "false") ++ " \x7d"

structure Registry (H : Type) where
  slots : Entries Key (List (Listener H))
  /-- All registrations, the first one with the number one. -/
  registrations : List Registration

namespace Registry

variable {H : Type}

def empty : Registry H := ⟨[], []⟩

def registration? (r : Registry H) (id : Nat) : Option Registration :=
  r.registrations.find? fun entry ↦ entry.id == id

def isActive (r : Registry H) (id : Nat) : Bool :=
  match r.registration? id with
  | some entry => entry.active
  | none => false

/-- The listeners of a key, active or not. -/
def listeners (r : Registry H) (key : Key) : List (Listener H) :=
  (Entries.get? key r.slots).getD []

/-- How many active listeners a key has. -/
def count (r : Registry H) (key : Key) : Nat :=
  ((r.listeners key).filter fun l ↦ r.isActive l.id).length

/-- The keys with listeners. -/
def keys (r : Registry H) : List Key :=
  Entries.keys r.slots

/-- Registers a handler; gives the number of the registration. -/
def register (r : Registry H) (key : Key) (handler : H) : Nat × Registry H :=
  let id := r.registrations.length + 1
  (id,
    { slots := Entries.insert key (r.listeners key ++ [⟨id, key, handler⟩]) r.slots
      registrations := r.registrations ++ [⟨id, key, true⟩] })

/-- Clears the flag of a registration; tells whether it was set. -/
def deactivate (r : Registry H) (id : Nat) : Bool × Registry H :=
  (r.isActive id,
    { r with
      registrations := r.registrations.map fun entry ↦
        if entry.id = id then { entry with active := false } else entry })

/-- Takes a listener out of the list of a key, and the list away if nothing is left of it. -/
def remove (r : Registry H) (key : Key) (id : Nat) : Registry H :=
  match Entries.get? key r.slots with
  | none => r
  | some listeners =>
      match listeners.filter fun l ↦ l.id != id with
      | [] => { r with slots := Entries.erase key r.slots }
      | rest => { r with slots := Entries.insert key rest r.slots }

/-- Takes back a registration; gives its key if it was active, and otherwise changes nothing. -/
def unregister (r : Registry H) (id : Nat) : Option Key × Registry H :=
  match r.registration? id with
  | none => (none, r)
  | some entry =>
      if entry.active then (some entry.key, (r.deactivate id).2.remove entry.key id) else (none, r)

/-- Clears the flags of listeners; counts those that were set. -/
def deactivateAll (r : Registry H) : List (Listener H) → Nat × Registry H
  | [] => (0, r)
  | l :: rest =>
      let (was, r) := r.deactivate l.id
      let (count, r) := r.deactivateAll rest
      ((if was then 1 else 0) + count, r)

/-- Takes back every registration under a key; gives the count of those that were active, if the
key has listeners. -/
def unregisterAll (r : Registry H) (key : Key) : Option Nat × Registry H :=
  match Entries.get? key r.slots with
  | none => (none, r)
  | some listeners =>
      let (count, r) := { r with slots := Entries.erase key r.slots }.deactivateAll listeners
      (some count, r)

/-- Takes back every registration; gives the count of those that were active. -/
def clear (r : Registry H) : Nat × Registry H :=
  { r with slots := [] }.deactivateAll (r.slots.flatMap Prod.snd)

/-- Takes the inactive listeners out of the list of a key; gives the rest of the list, if the key
has one, and the count of those taken out. -/
def reap (r : Registry H) (key : Key) : Option (List (Listener H) × Nat) × Registry H :=
  match Entries.get? key r.slots with
  | none => (none, r)
  | some listeners =>
      let live := listeners.filter fun l ↦ r.isActive l.id
      (some (live, listeners.length - live.length),
        { r with slots := Entries.insert key live r.slots })

/-- What is left when the registry goes away: the records of its registrations. -/
def dissolve (r : Registry H) : Registry H :=
  { r with slots := [] }

/-- How a registry shows in diagnostics. -/
def debug (r : Registry H) : String :=
  "ActionRegistry \x7b keys: " ++ toString r.slots.length ++ " \x7d"

end Registry

end DialogKit
