import DialogKit.Registry.Basic
import Mathlib.Data.List.Basic
import Mathlib.Data.List.Nodup

/-!
# Consistent registries

The lists of listeners and the flags of registrations say the same: the list of a key holds exactly
the active registrations under it, in the order of registration. Every operation keeps this, and so
a sweep for inactive listeners finds none and changes nothing.
-/

namespace DialogKit

namespace Registration

/-- The ids of the active registrations under a key, in order. -/
def activeIds (registrations : List Registration) (key : Key) : List Nat :=
  (registrations.filter fun entry ↦ entry.active && entry.key == key).map id

/-- The registrations with the flags cleared whose ids are among the given ones. -/
def quench (gone : Nat → Bool) (registrations : List Registration) : List Registration :=
  registrations.map fun entry ↦ if gone entry.id then { entry with active := false } else entry

variable {registrations : List Registration} {key : Key}

theorem mem_activeIds {n : Nat} :
    n ∈ activeIds registrations key ↔
      ∃ entry ∈ registrations, entry.active ∧ entry.key = key ∧ entry.id = n := by
  simp [activeIds, and_assoc]

theorem activeIds_sublist (registrations : List Registration) (key : Key) :
    (activeIds registrations key).Sublist (registrations.map id) :=
  List.filter_sublist.map id

theorem map_quench {α : Type} {f : Registration → α}
    (hf : ∀ entry, f { entry with active := false } = f entry) (gone : Nat → Bool)
    (registrations : List Registration) :
    (quench gone registrations).map f = registrations.map f := by
  unfold quench
  rw [List.map_map]
  refine List.map_congr_left fun entry _ ↦ ?_
  by_cases h : gone entry.id <;> simp [h, hf]

theorem length_quench (gone : Nat → Bool) (registrations : List Registration) :
    (quench gone registrations).length = registrations.length := by
  simp [quench]

theorem quench_quench (gone gone' : Nat → Bool) (registrations : List Registration) :
    quench gone' (quench gone registrations) =
      quench (fun n ↦ gone n || gone' n) registrations := by
  unfold quench
  rw [List.map_map]
  refine List.map_congr_left fun entry _ ↦ ?_
  by_cases h : gone entry.id <;> by_cases h' : gone' entry.id <;> simp [h, h']

theorem activeIds_quench (gone : Nat → Bool) (registrations : List Registration) (key : Key) :
    activeIds (quench gone registrations) key =
      (activeIds registrations key).filter fun n ↦ !gone n := by
  induction registrations with
  | nil => rfl
  | cons entry rest ih =>
    by_cases hgone : gone entry.id <;> by_cases hactive : entry.active && entry.key == key <;>
      simp_all [activeIds, quench]

end Registration

namespace Registry

open Registration

variable {H : Type}

theorem mem_of_registration? {r : Registry H} {n : Nat} {entry : Registration}
    (h : r.registration? n = some entry) : entry ∈ r.registrations ∧ entry.id = n := by
  unfold registration? at h
  have hid := List.find?_some h
  exact ⟨List.mem_of_find?_eq_some h, by simpa using hid⟩

theorem mem_flatMap_of_mem {r : Registry H} {key : Key} {l : Listener H}
    (hl : l ∈ r.listeners key) : l ∈ r.slots.flatMap Prod.snd := by
  unfold listeners at hl
  cases hget : Entries.get? key r.slots with
  | none => simp [hget] at hl
  | some ls =>
    rw [hget] at hl
    exact List.mem_flatMap.2 ⟨(key, ls), Entries.mem_of_get? hget, hl⟩

/-- The lists of listeners and the flags of the registrations agree. -/
structure Consistent (r : Registry H) : Prop where
  /-- The ids of the registrations count up from one. -/
  numbered : r.registrations.map Registration.id = List.range' 1 r.registrations.length
  distinct : r.keys.Nodup
  nonempty : ∀ key, Entries.get? key r.slots ≠ some []
  owned : ∀ key, ∀ l ∈ r.listeners key, l.key = key
  /-- The list of a key has the active registrations under it, in order. -/
  listed : ∀ key, (r.listeners key).map Listener.id = activeIds r.registrations key

theorem consistent_empty : (empty : Registry H).Consistent where
  numbered := rfl
  distinct := List.nodup_nil
  nonempty _ := by simp [empty]
  owned _ := by simp [empty, listeners]
  listed _ := rfl

theorem deactivate_eq (r : Registry H) (n : Nat) :
    (r.deactivate n).2 = { r with registrations := quench (· == n) r.registrations } := by
  simp [deactivate, quench]

theorem deactivateAll_eq (r : Registry H) (ls : List (Listener H)) :
    (r.deactivateAll ls).2 =
      { r with
        registrations := quench (fun n ↦ (ls.map Listener.id).contains n) r.registrations } := by
  induction ls generalizing r with
  | nil => simp [deactivateAll, quench]
  | cons l rest ih =>
    simp only [deactivateAll, ih, deactivate_eq, quench_quench, List.map_cons, List.contains_cons]

theorem remove_eq (r : Registry H) (key : Key) (n : Nat) :
    r.remove key n =
      { r with
        slots :=
          if ((r.listeners key).filter fun l ↦ l.id != n).isEmpty then Entries.erase key r.slots
          else Entries.insert key ((r.listeners key).filter fun l ↦ l.id != n) r.slots } := by
  unfold remove listeners
  cases hget : Entries.get? key r.slots with
  | none => simp [Entries.erase_of_get?_eq_none hget]
  | some ls =>
    dsimp only [Option.getD_some]
    split
    next hnil => simp [hnil]
    next hne =>
      have hempty : (ls.filter fun l ↦ l.id != n).isEmpty = false := by
        simpa [List.isEmpty_iff] using hne
      simp only [hempty, Bool.false_eq_true, if_false]

theorem listeners_remove_self {r : Registry H} (hkeys : r.keys.Nodup) (key : Key) (n : Nat) :
    (r.remove key n).listeners key = (r.listeners key).filter fun l ↦ l.id != n := by
  rw [remove_eq]
  split
  next hempty =>
    rw [List.isEmpty_iff.1 hempty]
    simp [listeners, Entries.get?_erase_self hkeys]
  next => simp [listeners, Entries.get?_insert_self]

theorem get?_slots_remove_of_ne (r : Registry H) {key other : Key} (h : key ≠ other) (n : Nat) :
    Entries.get? other (r.remove key n).slots = Entries.get? other r.slots := by
  rw [remove_eq]
  split
  · exact Entries.get?_erase_of_ne h _
  · exact Entries.get?_insert_of_ne h _ _

theorem nodup_keys_remove {r : Registry H} (hkeys : r.keys.Nodup) (key : Key) (n : Nat) :
    (r.remove key n).keys.Nodup := by
  rw [remove_eq]
  unfold keys
  split
  · rw [Entries.keys_erase]
    exact hkeys.erase key
  · exact Entries.nodup_keys_insert hkeys

theorem get?_slots_remove_self_ne {r : Registry H} (hkeys : r.keys.Nodup) (key : Key) (n : Nat) :
    Entries.get? key (r.remove key n).slots ≠ some [] := by
  rw [remove_eq]
  split
  next => simp [Entries.get?_erase_self hkeys]
  next hempty => simpa [Entries.get?_insert_self] using hempty

namespace Consistent

variable {r : Registry H} (h : r.Consistent)

include h

theorem nodup_ids : (r.registrations.map Registration.id).Nodup := by
  rw [h.numbered]
  exact List.nodup_range'

theorem eq_of_id_eq {a b : Registration} (ha : a ∈ r.registrations) (hb : b ∈ r.registrations)
    (hid : a.id = b.id) : a = b :=
  List.inj_on_of_nodup_map h.nodup_ids ha hb hid

theorem registration?_eq_some {n : Nat} {entry : Registration} :
    r.registration? n = some entry ↔ entry ∈ r.registrations ∧ entry.id = n := by
  refine ⟨mem_of_registration?, ?_⟩
  rintro ⟨hmem, rfl⟩
  cases hfind : r.registration? entry.id with
  | none => simpa using List.find?_eq_none.1 hfind entry hmem
  | some other =>
    obtain ⟨hother, hid⟩ := mem_of_registration? hfind
    rw [h.eq_of_id_eq hother hmem hid]

theorem isActive_iff {n : Nat} :
    r.isActive n ↔ ∃ entry ∈ r.registrations, entry.id = n ∧ entry.active := by
  unfold isActive
  cases hfind : r.registration? n with
  | none =>
    have hnone := List.find?_eq_none.1 hfind
    simp only [Bool.false_eq_true, false_iff]
    rintro ⟨entry, hmem, hid, _⟩
    exact hnone entry hmem (by simp [hid])
  | some entry =>
    obtain ⟨hmem, hid⟩ := h.registration?_eq_some.1 hfind
    constructor
    · intro hactive
      exact ⟨entry, hmem, hid, hactive⟩
    · rintro ⟨other, hother, hid', hactive⟩
      rwa [h.eq_of_id_eq hmem hother (hid.trans hid'.symm)]

/-- The registration of a listener in the list of a key. -/
theorem registration_of_mem {key : Key} {l : Listener H} (hl : l ∈ r.listeners key) :
    ∃ entry ∈ r.registrations, entry.active ∧ entry.key = key ∧ entry.id = l.id := by
  rw [← mem_activeIds, ← h.listed]
  exact List.mem_map_of_mem hl

theorem isActive_of_mem {key : Key} {l : Listener H} (hl : l ∈ r.listeners key) :
    r.isActive l.id := by
  obtain ⟨entry, hmem, hactive, _, hid⟩ := h.registration_of_mem hl
  exact h.isActive_iff.2 ⟨entry, hmem, hid, hactive⟩

/-- A listener with the id of a registration is in the list of the key of that registration. -/
theorem key_of_mem {key : Key} {l : Listener H} (hl : l ∈ r.listeners key) {entry : Registration}
    (hentry : entry ∈ r.registrations) (hid : entry.id = l.id) : entry.key = key := by
  obtain ⟨other, hother, _, hkey, hid'⟩ := h.registration_of_mem hl
  rw [h.eq_of_id_eq hentry hother (hid.trans hid'.symm)]
  exact hkey

/-- Registrations may be taken back together with their listeners. -/
theorem quench {r' : Registry H} (gone : Nat → Bool)
    (hregistrations : r'.registrations = Registration.quench gone r.registrations)
    (hdistinct : r'.keys.Nodup) (hnonempty : ∀ key, Entries.get? key r'.slots ≠ some [])
    (hlisteners : ∀ key, r'.listeners key = (r.listeners key).filter fun l ↦ !gone l.id) :
    r'.Consistent where
  numbered := by rw [hregistrations, map_quench fun _ ↦ rfl, length_quench, h.numbered]
  distinct := hdistinct
  nonempty := hnonempty
  owned key l hl := by
    rw [hlisteners] at hl
    exact h.owned key l (List.mem_filter.1 hl).1
  listed key := by
    rw [hlisteners, hregistrations, activeIds_quench, ← h.listed, List.filter_map]
    rfl

theorem register (key : Key) (handler : H) : (r.register key handler).2.Consistent where
  numbered := by
    simp [Registry.register, h.numbered, List.range'_1_concat, Nat.add_comm]
  distinct := Entries.nodup_keys_insert h.distinct
  nonempty other := by
    by_cases hother : key = other
    · subst hother
      simp [Registry.register, Entries.get?_insert_self]
    · simpa [Registry.register, Entries.get?_insert_of_ne hother] using h.nonempty other
  owned other l hl := by
    by_cases hother : key = other
    · subst hother
      have hcases : l ∈ r.listeners key ∨ l = ⟨r.registrations.length + 1, key, handler⟩ := by
        simpa [Registry.register, listeners, Entries.get?_insert_self] using hl
      rcases hcases with hl | rfl
      · exact h.owned key l hl
      · rfl
    · refine h.owned other l ?_
      simpa [Registry.register, listeners, Entries.get?_insert_of_ne hother] using hl
  listed other := by
    have hlisted := h.listed other
    by_cases hother : key = other
    · subst hother
      simpa [Registry.register, listeners, Entries.get?_insert_self, activeIds] using hlisted
    · simpa [Registry.register, listeners, Entries.get?_insert_of_ne hother, activeIds, hother]
        using hlisted

theorem unregister_eq_of_active {entry : Registration} (hentry : entry ∈ r.registrations)
    (hactive : entry.active = true) :
    r.unregister entry.id =
      (some entry.key, (r.deactivate entry.id).2.remove entry.key entry.id) := by
  simp only [Registry.unregister, h.registration?_eq_some.2 ⟨hentry, rfl⟩, hactive, if_true]

/-- The listener of a registration is taken out of the list of its key, and the lists of other keys
do not have it. -/
theorem listeners_deactivate_remove {entry : Registration} (hentry : entry ∈ r.registrations)
    (key : Key) :
    ((r.deactivate entry.id).2.remove entry.key entry.id).listeners key =
      (r.listeners key).filter fun l ↦ !(l.id == entry.id) := by
  have hkeys : (r.deactivate entry.id).2.keys.Nodup := h.distinct
  by_cases hkey : entry.key = key
  · subst hkey
    exact listeners_remove_self hkeys _ _
  · unfold listeners
    rw [get?_slots_remove_of_ne _ hkey]
    -- The id belongs to one key only, so the list of another one is left as it is.
    refine (List.filter_eq_self.2 fun l hl ↦ ?_).symm
    have hne : entry.id ≠ l.id := fun hid ↦ hkey (h.key_of_mem hl hentry hid)
    simpa using hne.symm

theorem unregister (n : Nat) : (r.unregister n).2.Consistent := by
  cases hfind : r.registration? n with
  | none => simpa [Registry.unregister, hfind] using h
  | some entry =>
    obtain ⟨hentry, rfl⟩ := mem_of_registration? hfind
    cases hactive : entry.active with
    | false => simpa [Registry.unregister, hfind, hactive] using h
    | true =>
      rw [h.unregister_eq_of_active hentry hactive]
      have hkeys : (r.deactivate entry.id).2.keys.Nodup := h.distinct
      refine h.quench (· == entry.id) ?_ (nodup_keys_remove hkeys _ _) ?_
        (h.listeners_deactivate_remove hentry)
      · rw [remove_eq, deactivate_eq]
      · intro key
        by_cases hkey : entry.key = key
        · subst hkey
          exact get?_slots_remove_self_ne hkeys _ _
        · rw [get?_slots_remove_of_ne _ hkey]
          exact h.nonempty key

theorem unregisterAll (key : Key) : (r.unregisterAll key).2.Consistent := by
  unfold Registry.unregisterAll
  cases hget : Entries.get? key r.slots with
  | none => exact h
  | some ls =>
    have hls : r.listeners key = ls := by simp [listeners, hget]
    dsimp only
    rw [deactivateAll_eq]
    refine h.quench _ rfl ?_ ?_ ?_
    · unfold keys
      rw [Entries.keys_erase]
      exact h.distinct.erase key
    · intro other
      by_cases hother : key = other
      · subst hother
        simp [Entries.get?_erase_self h.distinct]
      · rw [Entries.get?_erase_of_ne hother]
        exact h.nonempty other
    · intro other
      by_cases hother : key = other
      · subst hother
        have hnone : ∀ l ∈ ls, ¬(!(ls.map Listener.id).contains l.id) = true := by
          intro l hl
          simpa using ⟨l, hl, rfl⟩
        rw [hls, List.filter_eq_nil_iff.2 hnone]
        simp [listeners, Entries.get?_erase_self h.distinct]
      · unfold listeners
        rw [Entries.get?_erase_of_ne hother]
        refine (List.filter_eq_self.2 fun l hl ↦ ?_).symm
        -- A listener under both keys would have one registration with two keys.
        have hfresh : ∀ l' ∈ ls, l'.id ≠ l.id := by
          intro l' hl' hid
          obtain ⟨entry, hentry, _, hkey, hid'⟩ := h.registration_of_mem (hls ▸ hl')
          exact hother (hkey.symm.trans (h.key_of_mem hl hentry (hid'.trans hid)))
        simpa using hfresh

theorem clear : r.clear.2.Consistent := by
  unfold Registry.clear
  rw [deactivateAll_eq]
  refine h.quench _ rfl List.nodup_nil (by simp) fun key ↦ ?_
  symm
  refine List.filter_eq_nil_iff.2 fun l hl ↦ ?_
  have hmem : l.id ∈ (r.slots.flatMap Prod.snd).map Listener.id :=
    List.mem_map_of_mem (mem_flatMap_of_mem hl)
  rw [List.contains_iff_mem.2 hmem]
  simp

/-- There is never anything to sweep. -/
theorem reap_eq (key : Key) :
    r.reap key = ((Entries.get? key r.slots).map fun ls ↦ (ls, 0), r) := by
  unfold reap
  cases hget : Entries.get? key r.slots with
  | none => rfl
  | some ls =>
    have hls : r.listeners key = ls := by simp [listeners, hget]
    have hlive : ls.filter (fun l ↦ r.isActive l.id) = ls :=
      List.filter_eq_self.2 fun l hl ↦ h.isActive_of_mem (hls ▸ hl)
    simp [hlive, Entries.insert_of_get? hget]

end Consistent

end Registry

end DialogKit
