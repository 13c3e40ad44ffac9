import DialogKit.Proofs.Registry.History
import DialogKit.Proofs.Registry.Listing
import Mathlib.Algebra.GroupWithZero.Nat
import Mathlib.Data.List.Count
import Mathlib.Data.List.Nodup
import Mathlib.Data.List.Perm.Basic

/-!
# Accounts of removals

Registrations are taken back one by one, by key or all together, and each of the three ways counts
what it takes back. At every place of a history, the registrations made so far are those that are
still active and those that have been counted out. What is taken back once stays so: its flag is
never set again, and no delivery calls it any more.
-/

namespace DialogKit

namespace Registry

open Registration

variable {H : Type}

/-! ## Flags -/

/-- The ids of the active registrations, in order. -/
def actives (r : Registry H) : List Nat :=
  (r.registrations.filter Registration.active).map Registration.id

/-- A registration that has been taken back. -/
def Inactive (r : Registry H) (n : Nat) : Prop :=
  ∃ entry, r.registration? n = some entry ∧ entry.active = false

theorem Inactive.isActive_eq_false {r : Registry H} {n : Nat} (h : r.Inactive n) :
    r.isActive n = false := by
  obtain ⟨entry, hentry, hactive⟩ := h
  rw [isActive, hentry]
  exact hactive

section

variable {r s : Registry H} {gone : Nat → Bool}

theorem registration?_quench (hs : s.registrations = quench gone r.registrations) (n : Nat) :
    s.registration? n = (r.registration? n).map fun entry ↦
      if gone entry.id then { entry with active := false } else entry := by
  unfold registration?
  rw [hs, quench, List.find?_map]
  congr 2
  funext entry
  by_cases h : gone entry.id <;> simp [h]

theorem isActive_quench (hs : s.registrations = quench gone r.registrations) (n : Nat) :
    s.isActive n = (r.isActive n && !gone n) := by
  unfold isActive
  rw [registration?_quench hs]
  cases hfind : r.registration? n with
  | none => rfl
  | some entry =>
    obtain ⟨_, rfl⟩ := mem_of_registration? hfind
    by_cases h : gone entry.id <;> simp [h]

theorem Inactive.quench {n : Nat} (h : r.Inactive n)
    (hs : s.registrations = quench gone r.registrations) : s.Inactive n := by
  obtain ⟨entry, hentry, hactive⟩ := h
  refine ⟨_, by rw [registration?_quench hs, hentry]; rfl, ?_⟩
  by_cases h : gone entry.id <;> simp [h, hactive]

theorem actives_quench (hs : s.registrations = quench gone r.registrations) :
    s.actives = r.actives.filter fun n ↦ !gone n := by
  unfold actives
  rw [hs]
  generalize r.registrations = registrations
  induction registrations with
  | nil => rfl
  | cons entry rest ih =>
    by_cases hgone : gone entry.id <;> by_cases hactive : entry.active <;>
      simp_all [Registration.quench]

end

/-- A flag that is cleared stays so. -/
theorem evolution_inactive (n : Nat) :
    Evolution fun r s : Registry H ↦ r.Inactive n → s.Inactive n where
  refl _ h := h
  trans hrs hst h := hst (hrs h)
  register r key handler h := by
    obtain ⟨entry, hentry, hactive⟩ := h
    refine ⟨entry, ?_, hactive⟩
    unfold registration? at hentry ⊢
    simp [register, List.find?_append, hentry]
  unregister r m h := by
    obtain ⟨gone, hs⟩ := r.reduced_unregister m
    exact h.quench hs
  unregisterAll r key h := by
    obtain ⟨gone, hs⟩ := r.reduced_unregisterAll key
    exact h.quench hs
  clear r h := by
    obtain ⟨gone, hs⟩ := r.reduced_clear
    exact h.quench hs
  reap r key h := by
    obtain ⟨gone, hs⟩ := r.reduced_reap key
    exact h.quench hs

/-- What is taken back is not called any more. -/
theorem CallsActive.not_call {r : Registry H} {acts : List (Act H)} (h : r.CallsActive acts)
    {n : Nat} (hn : r.Inactive n) : .call n ∉ acts := by
  induction h with
  | nil => simp
  | @cons r act acts hcall _ ih =>
    intro hmem
    rcases List.mem_cons.1 hmem with hact | hmem
    · have hactive := hcall n hact.symm
      simp [hn.isActive_eq_false] at hactive
    · exact ih ((evolution_inactive n).apply r act hn) hmem

/-! ## Counts -/

theorem deactivateAll_fst {r : Registry H} {ls : List (Listener H)}
    (hactive : ∀ l ∈ ls, r.isActive l.id = true) (hnodup : (ls.map Listener.id).Nodup) :
    (r.deactivateAll ls).1 = ls.length := by
  induction ls generalizing r with
  | nil => rfl
  | cons l rest ih =>
    obtain ⟨hl, hrest⟩ := List.forall_mem_cons.1 hactive
    obtain ⟨hfresh, hnodup⟩ := List.nodup_cons.1 hnodup
    have hstill : ∀ l' ∈ rest, (r.deactivate l.id).2.isActive l'.id = true := by
      intro l' hl'
      have hne : l'.id ≠ l.id := fun hid ↦ hfresh (hid ▸ List.mem_map_of_mem hl')
      have hquench : (r.deactivate l.id).2.registrations = quench (· == l.id) r.registrations := by
        rw [deactivate_eq]
      rw [isActive_quench hquench, hrest l' hl']
      simpa using hne
    simp only [deactivateAll, ih hstill hnodup, List.length_cons]
    simp [deactivate, hl, Nat.add_comm]

namespace Consistent

variable {r : Registry H} (h : r.Consistent)

include h

theorem mem_actives {n : Nat} : n ∈ r.actives ↔ r.isActive n = true := by
  rw [h.isActive_iff]
  simp only [actives, List.mem_map, List.mem_filter]
  constructor
  · rintro ⟨entry, ⟨hmem, hactive⟩, hid⟩
    exact ⟨entry, hmem, hid, hactive⟩
  · rintro ⟨entry, hmem, hid, hactive⟩
    exact ⟨entry, ⟨hmem, hactive⟩, hid⟩

theorem nodup_actives : r.actives.Nodup :=
  h.nodup_ids.sublist (List.filter_sublist.map _)

/-- As many flags are cleared as there are active registrations among the given ones. -/
theorem length_actives_quench {s : Registry H} {ids : List Nat}
    (hs : s.registrations = Registration.quench (fun n ↦ ids.contains n) r.registrations)
    (hnodup : ids.Nodup) (hactive : ∀ n ∈ ids, r.isActive n = true) :
    s.actives.length + ids.length = r.actives.length := by
  have hperm : (r.actives.filter fun n ↦ ids.contains n).Perm ids := by
    refine (List.perm_ext_iff_of_nodup (h.nodup_actives.filter _) hnodup).2 fun n ↦ ?_
    simp only [List.mem_filter, h.mem_actives, List.contains_iff_mem]
    exact ⟨And.right, fun hn ↦ ⟨hactive n hn, hn⟩⟩
  rw [actives_quench hs, ← hperm.length_eq, Nat.add_comm]
  exact (List.length_eq_length_filter_add _).symm

theorem listeners_of_mem_slots {key : Key} {ls : List (Listener H)} (hmem : (key, ls) ∈ r.slots) :
    r.listeners key = ls := by
  rw [listeners, Entries.get?_of_mem h.distinct hmem, Option.getD_some]

theorem isActive_of_mem_slots {l : Listener H} (hl : l ∈ r.slots.flatMap Prod.snd) :
    r.isActive l.id = true := by
  obtain ⟨⟨key, ls⟩, hmem, hl⟩ := List.mem_flatMap.1 hl
  rw [← h.listeners_of_mem_slots hmem] at hl
  exact h.isActive_of_mem hl

theorem nodup_slots : ((r.slots.flatMap Prod.snd).map Listener.id).Nodup := by
  rw [List.map_flatMap, List.nodup_flatMap]
  constructor
  · rintro ⟨key, ls⟩ hmem
    rw [← h.listeners_of_mem_slots hmem]
    exact h.nodup_listeners key
  · have hkeys : r.slots.Pairwise fun a b ↦ a.1 ≠ b.1 := List.pairwise_map.1 h.distinct
    refine hkeys.imp_of_mem fun {a b} ha hb hne ↦ ?_
    -- A listener under two keys would have one registration with two keys.
    intro n hna hnb
    dsimp only at hna hnb
    rw [← h.listeners_of_mem_slots ha] at hna
    rw [← h.listeners_of_mem_slots hb] at hnb
    obtain ⟨l, hl, rfl⟩ := List.mem_map.1 hna
    obtain ⟨l', hl', hid'⟩ := List.mem_map.1 hnb
    obtain ⟨entry, hentry, _, hkey, hid⟩ := h.registration_of_mem hl
    exact hne (hkey.symm.trans (h.key_of_mem hl' hentry (hid.trans hid'.symm)))

theorem unregisterAll_fst (key : Key) : (r.unregisterAll key).1.getD 0 = r.count key := by
  rw [h.count_eq_length]
  unfold Registry.unregisterAll
  cases hget : Entries.get? key r.slots with
  | none => simp [listeners, hget]
  | some ls =>
    have hls : r.listeners key = ls := by simp [listeners, hget]
    rw [hls]
    refine deactivateAll_fst (fun l hl ↦ ?_) (hls ▸ h.nodup_listeners key)
    exact h.isActive_of_mem (hls ▸ hl)

theorem clear_fst : r.clear.1 = (r.slots.flatMap Prod.snd).length :=
  deactivateAll_fst (fun _ hl ↦ h.isActive_of_mem_slots hl) h.nodup_slots

theorem length_slots :
    (r.slots.flatMap Prod.snd).length = (r.keys.map r.count).sum := by
  unfold keys Entries.keys
  rw [List.length_flatMap, List.map_map]
  congr 1
  refine List.map_congr_left fun ⟨key, ls⟩ hmem ↦ ?_
  rw [Function.comp_apply, h.count_eq_length, h.listeners_of_mem_slots hmem]

theorem listeners_unregisterAll_self (key : Key) : (r.unregisterAll key).2.listeners key = [] := by
  unfold Registry.unregisterAll
  cases hget : Entries.get? key r.slots with
  | none => simp [listeners, hget]
  | some ls => simp [deactivateAll_eq, listeners, Entries.get?_erase_self h.distinct]

theorem listeners_unregister {n : Nat} (hactive : r.isActive n = true) (key : Key) :
    (r.unregister n).2.listeners key = (r.listeners key).filter fun l ↦ l.id != n := by
  obtain ⟨entry, hentry, rfl, hset⟩ := h.isActive_iff.1 hactive
  rw [h.unregister_eq_of_active hentry hset]
  exact h.listeners_deactivate_remove hentry key

end Consistent

theorem listeners_unregisterAll_of_ne (r : Registry H) {key other : Key} (h : other ≠ key) :
    (r.unregisterAll key).2.listeners other = r.listeners other := by
  unfold unregisterAll
  cases hget : Entries.get? key r.slots with
  | none => rfl
  | some ls => simp only [deactivateAll_eq, listeners, Entries.get?_erase_of_ne h.symm]

theorem keys_clear (r : Registry H) : r.clear.2.keys = [] := by
  unfold clear
  rw [deactivateAll_eq]
  rfl

theorem unregister_of_not_active {r : Registry H} {n : Nat} (h : r.isActive n = false) :
    r.unregister n = (none, r) := by
  unfold unregister
  cases hfind : r.registration? n with
  | none => rfl
  | some entry =>
    have hactive : entry.active = false := by simpa [isActive, hfind] using h
    simp [hactive]

theorem registrations_unregisterAll (r : Registry H) (key : Key) :
    (r.unregisterAll key).2.registrations =
      quench (fun n ↦ ((r.listeners key).map Listener.id).contains n) r.registrations := by
  unfold unregisterAll listeners
  cases hget : Entries.get? key r.slots with
  | none => simp [quench]
  | some ls => simp only [deactivateAll_eq, Option.getD_some]

theorem registrations_clear (r : Registry H) :
    r.clear.2.registrations =
      quench (fun n ↦ ((r.slots.flatMap Prod.snd).map Listener.id).contains n)
        r.registrations := by
  unfold clear
  rw [deactivateAll_eq]

theorem Consistent.registrations_unregister {r : Registry H} (h : r.Consistent) {n : Nat}
    (hactive : r.isActive n = true) :
    (r.unregister n).2.registrations =
      Registration.quench (fun m ↦ [n].contains m) r.registrations := by
  obtain ⟨entry, hentry, rfl, hset⟩ := h.isActive_iff.1 hactive
  have hsame : (fun m ↦ [entry.id].contains m) = fun m ↦ m == entry.id := by
    funext m
    rw [Bool.eq_iff_iff]
    simp
  rw [h.unregister_eq_of_active hentry hset, remove_eq, deactivate_eq, hsame]

theorem Consistent.unregister_fst {r : Registry H} (h : r.Consistent) (n : Nat) :
    (r.unregister n).1.isSome = r.isActive n := by
  cases hactive : r.isActive n with
  | false => simp [unregister_of_not_active hactive]
  | true =>
    obtain ⟨entry, hentry, rfl, hset⟩ := h.isActive_iff.1 hactive
    simp [h.unregister_eq_of_active hentry hset]

end Registry

/-- Whether an act registers a handler. -/
def Act.registers {H : Type} : Act H → Bool
  | .register _ _ => true
  | _ => false

namespace Registry

variable {H : Type}

/-- How many registrations an act takes back, by its own account. -/
def removed (r : Registry H) : Act H → Nat
  | .unregister n => if (r.unregister n).1.isSome then 1 else 0
  | .unregisterAll key => (r.unregisterAll key).1.getD 0
  | .clear => r.clear.1
  | .register _ _ | .sweep _ | .call _ => 0

/-- How many registrations are taken back in a history, by the accounts of its acts. -/
def removals (r : Registry H) : List (Act H) → Nat
  | [] => 0
  | act :: acts => r.removed act + (r.apply act).removals acts

/-- The account of one act. -/
theorem Consistent.account {r : Registry H} (h : r.Consistent) (act : Act H) :
    (r.apply act).actives.length + r.removed act =
      r.actives.length + if act.registers then 1 else 0 := by
  cases act with
  | register key handler => simp [apply, removed, Act.registers, actives, Registry.register]
  | unregister n =>
    simp only [apply, removed, Act.registers, h.unregister_fst]
    cases hactive : r.isActive n with
    | false => simp [unregister_of_not_active hactive]
    | true =>
      simpa using h.length_actives_quench (h.registrations_unregister hactive)
        (List.nodup_singleton n) (by simpa using hactive)
  | unregisterAll key =>
    have hlength := h.length_actives_quench (r.registrations_unregisterAll key)
      (h.nodup_listeners key) (List.forall_mem_map.2 fun l hl ↦ h.isActive_of_mem hl)
    rw [List.length_map, ← h.count_eq_length] at hlength
    simpa [apply, removed, Act.registers, h.unregisterAll_fst] using hlength
  | clear =>
    have hlength := h.length_actives_quench r.registrations_clear h.nodup_slots
      (List.forall_mem_map.2 fun l hl ↦ h.isActive_of_mem_slots hl)
    rw [List.length_map] at hlength
    simpa [apply, removed, Act.registers, h.clear_fst] using hlength
  | sweep key => simp [apply, removed, Act.registers, h.reap_eq]
  | call n => rfl

/-- The account of a history. -/
theorem Consistent.accounts {r : Registry H} (h : r.Consistent) (acts : List (Act H)) :
    (r.replay acts).actives.length + r.removals acts =
      r.actives.length + acts.countP Act.registers := by
  induction acts generalizing r with
  | nil => rfl
  | cons act acts ih =>
    have hact := h.account act
    have hacts := ih (evolution_consistent.apply r act h)
    rw [replay_cons, removals, List.countP_cons]
    omega

end Registry

namespace World

variable {H σ α : Type}

theorem exists_unregisterAll_eq (key : Key) (w : World H σ) :
    ∃ w', unregisterAll key w = some ((w.registry.unregisterAll key).1.getD 0, w') ∧
      w'.registry = (w.registry.unregisterAll key).2 := by
  cases hfound : (w.registry.unregisterAll key).1 with
  | none =>
    refine ⟨{ w with registry := (w.registry.unregisterAll key).2 }, ?_, rfl⟩
    exact bind_eq_some.2 ⟨none, _, onRegistry_eq_some.2 ⟨hfound, rfl⟩, rfl⟩
  | some removed =>
    refine ⟨_, bind_eq_some.2 ⟨some removed, _, onRegistry_eq_some.2 ⟨hfound, rfl⟩,
      bind_eq_some.2 ⟨(), _, perform_eq_some.2 ⟨rfl, rfl⟩, rfl⟩⟩, rfl⟩

theorem exists_clear_eq (w : World H σ) :
    ∃ w', clear w = some (w.registry.clear.1, w') ∧ w'.registry = w.registry.clear.2 :=
  ⟨_, bind_eq_some.2 ⟨_, _, onRegistry_eq_some.2 ⟨rfl, rfl⟩,
    bind_eq_some.2 ⟨(), _, perform_eq_some.2 ⟨rfl, rfl⟩, rfl⟩⟩, rfl⟩

theorem exists_unregister_eq (n : Nat) (w : World H σ) :
    ∃ w', unregister n w = some ((), w') ∧ w'.registry = (w.registry.unregister n).2 := by
  cases hfound : (w.registry.unregister n).1 with
  | none =>
    refine ⟨{ w with registry := (w.registry.unregister n).2 }, ?_, rfl⟩
    exact bind_eq_some.2 ⟨none, _, onRegistry_eq_some.2 ⟨hfound, rfl⟩, rfl⟩
  | some key =>
    refine ⟨_, bind_eq_some.2 ⟨some key, _, onRegistry_eq_some.2 ⟨hfound, rfl⟩,
      perform_eq_some.2 ⟨rfl, rfl⟩⟩, rfl⟩

theorem unregister_eq_of_not_active {n : Nat} {w : World H σ} (h : w.registry.isActive n = false) :
    unregister n w = some ((), w) := by
  have hnone := Registry.unregister_of_not_active h
  refine bind_eq_some.2 ⟨none, w, onRegistry_eq_some.2 ⟨by rw [hnone], by rw [hnone]⟩, rfl⟩

/-- The ways to take back registrations do what they say in a world. -/
structure TakesBack (w : World H σ) : Prop where
  /-- All listeners of a key are counted and taken back, and those of other keys are left. -/
  unregisterAll : ∀ key, ∃ w', World.unregisterAll key w = some (w.registry.count key, w') ∧
    w'.registry.count key = 0 ∧
    ∀ other, other ≠ key → w'.registry.listeners other = w.registry.listeners other
  /-- All listeners of all keys are counted and taken back. -/
  clear : ∃ w', World.clear w = some ((w.registry.keys.map w.registry.count).sum, w') ∧
    w'.registry.keys = []
  /-- One active listener is taken back, and the others stay in their order. -/
  unregister : ∀ n, w.registry.isActive n = true → ∃ w', World.unregister n w = some ((), w') ∧
    (∀ key, w'.registry.listeners key = (w.registry.listeners key).filter fun l ↦ l.id != n) ∧
    ∀ m, w'.registry.isActive m = (w.registry.isActive m && m != n)
  /-- To take back what is not active changes nothing. -/
  unregister_inactive : ∀ n, w.registry.isActive n = false → World.unregister n w = some ((), w)

theorem takesBack_of_consistent {w : World H σ} (h : w.registry.Consistent) : TakesBack w where
  unregisterAll key := by
    obtain ⟨w', hw', hregistry⟩ := exists_unregisterAll_eq key w
    rw [h.unregisterAll_fst] at hw'
    refine ⟨w', hw', ?_, fun other hother ↦ ?_⟩
    · rw [hregistry, (h.unregisterAll key).count_eq_length, h.listeners_unregisterAll_self]
      rfl
    · rw [hregistry, Registry.listeners_unregisterAll_of_ne _ hother]
  clear := by
    obtain ⟨w', hw', hregistry⟩ := exists_clear_eq w
    rw [h.clear_fst, h.length_slots] at hw'
    exact ⟨w', hw', by rw [hregistry, Registry.keys_clear]⟩
  unregister n hactive := by
    obtain ⟨w', hw', hregistry⟩ := exists_unregister_eq n w
    refine ⟨w', hw', fun key ↦ ?_, fun m ↦ ?_⟩
    · rw [hregistry]
      exact h.listeners_unregister hactive key
    · rw [hregistry, Registry.isActive_quench (h.registrations_unregister hactive),
        Bool.eq_iff_iff]
      simp
  unregister_inactive n := unregister_eq_of_not_active

/-- Whatever a program and the handlers that it calls do, their history leads from the empty
registry to the one with which the run ends. In every world on the way, which lies at a place of the
history, the ways to take back registrations count exactly what they take back. At each place of the
history, as many registrations have been made as are active or have been counted out; and one that
is not active there stays so, and is not called later. -/
theorem accounts_of_run (handling : Handling H σ) (levels : Nat) (program : RegistryProgram H σ α)
    (host : σ) (effects : List Effect) :
    let start : World H σ := ⟨Registry.empty, host, effects⟩
    let acts := history handling levels program start
    (∀ a w, program.run (serve (dispatch handling levels)) start = some (a, w) →
      w.registry = Registry.empty.replay acts) ∧
    (∀ w, Visits handling levels program start w → TakesBack w ∧
      ∃ before after, acts = before ++ after ∧ w.registry = Registry.empty.replay before) ∧
    ∀ before after, acts = before ++ after →
      before.countP Act.registers =
        (Registry.empty.replay before).actives.length + Registry.empty.removals before ∧
      ∀ n, (Registry.empty.replay before).Inactive n → .call n ∉ after ∧
        ∀ more later, after = more ++ later →
          (Registry.empty.replay (before ++ more)).Inactive n := by
  intro start acts
  have hrecords := records_history handling levels program start
  refine ⟨hrecords.leads, fun w hvisits ↦ ⟨?_, history_of_visits hvisits⟩, ?_⟩
  · exact takesBack_of_consistent (consistent_of_visits hvisits)
  · intro before after hacts
    have haccounts := Registry.consistent_empty.accounts before
    have hnone : (Registry.empty : Registry H).actives = [] := rfl
    rw [hnone, List.length_nil, Nat.zero_add] at haccounts
    have hcalls : Registry.empty.CallsActive (before ++ after) := hacts ▸ hrecords.calls
    refine ⟨haccounts.symm, fun n hn ↦ ⟨hcalls.right.not_call hn, fun more _ _ ↦ ?_⟩⟩
    rw [Registry.replay_append]
    exact (Registry.evolution_inactive n).replay _ more hn

/-- The history of `selling` up to where the first handler has taken back all listeners. -/
def takenBack : List (Act Bool) :=
  [.register shopKey true, .register shopKey false, .sweep shopKey, .call 1, .unregisterAll shopKey]

/-- The first of two listeners takes back both while it is called, and is not called again. -/
theorem accounts_of_run_replacing :
    let start : World Bool Unit := ⟨Registry.empty, (), []⟩
    history replacing 1 selling start = takenBack ++ [.register shopKey false] ∧
    takenBack.countP Act.registers = 2 ∧ Registry.empty.removals takenBack = 2 ∧
    .call 1 ∈ takenBack ∧ (Registry.empty.replay takenBack).Inactive 1 ∧
    .call 1 ∉ [Act.register shopKey false] ∧
    ∃ w, Visits replacing 1 selling start w ∧ w.registry.actives = [3] ∧ TakesBack w := by
  intro start
  obtain ⟨_, hvisited, hplaces⟩ := accounts_of_run replacing 1 selling () []
  have hacts : history replacing 1 selling start = takenBack ++ [.register shopKey false] := by
    decide +kernel
  have hregisters : takenBack.countP Act.registers = 2 := rfl
  have hactives : (Registry.empty.replay takenBack).actives = [] := rfl
  have hinactive : (Registry.empty.replay takenBack).Inactive 1 :=
    ⟨⟨1, shopKey, false⟩, rfl, rfl⟩
  obtain ⟨haccounts, hfinal⟩ := hplaces _ _ hacts
  rw [hregisters, hactives, List.length_nil, Nat.zero_add] at haccounts
  obtain ⟨w, hvisits, hw⟩ :
      ∃ w, Visits replacing 1 selling start w ∧ w.registry.actives = [3] :=
    ⟨_, .onward rfl (.onward rfl (.within [] rfl .nil rfl (.onward rfl (.onward rfl .here)))), rfl⟩
  exact ⟨hacts, hregisters, haccounts.symm, by decide, hinactive, (hfinal 1 hinactive).1,
    w, hvisits, hw, (hvisited w hvisits).1⟩

end World

end DialogKit
