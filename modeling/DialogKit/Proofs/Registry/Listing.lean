import DialogKit.Proofs.Registry.Consistent
import DialogKit.Proofs.Registry.Runs

/-!
# What the lists of listeners tell

In every world that a program comes through the registry is consistent. A listener is active if and
only if it is in the list of its key; lists are never empty and are in the order of registration;
ids are never given out twice; and a delivery never finds inactive listeners to sweep out.
-/

namespace DialogKit

namespace Registry

open Registration

variable {H : Type}

/-- The ids given out so far with their keys. -/
def issued (r : Registry H) : List (Nat × Key) :=
  r.registrations.map fun entry ↦ (entry.id, entry.key)

theorem issued_register (r : Registry H) (key : Key) (handler : H) :
    (r.register key handler).2.issued = r.issued ++ [((r.register key handler).1, key)] := by
  simp [issued, register]

/-- Some registrations have been taken back since. -/
def Reduced (r s : Registry H) : Prop :=
  ∃ gone, s.registrations = quench gone r.registrations

theorem reduced_self (r : Registry H) : r.Reduced r :=
  ⟨fun _ ↦ false, by simp [quench]⟩

theorem reduced_unregister (r : Registry H) (n : Nat) : r.Reduced (r.unregister n).2 := by
  unfold unregister
  split
  · exact r.reduced_self
  · split
    · rw [remove_eq, deactivate_eq]
      exact ⟨(· == n), rfl⟩
    · exact r.reduced_self

theorem reduced_unregisterAll (r : Registry H) (key : Key) : r.Reduced (r.unregisterAll key).2 := by
  unfold unregisterAll
  split
  · exact r.reduced_self
  · dsimp only
    rw [deactivateAll_eq]
    exact ⟨_, rfl⟩

theorem reduced_clear (r : Registry H) : r.Reduced r.clear.2 := by
  unfold clear
  rw [deactivateAll_eq]
  exact ⟨_, rfl⟩

theorem reduced_reap (r : Registry H) (key : Key) : r.Reduced (r.reap key).2 := by
  unfold reap
  split
  · exact r.reduced_self
  · exact r.reduced_self

theorem Reduced.issued_eq {r s : Registry H} (h : r.Reduced s) : s.issued = r.issued := by
  obtain ⟨gone, hs⟩ := h
  unfold issued
  rw [hs]
  exact map_quench (fun _ ↦ rfl) gone r.registrations

/-- What was given out stays given out. -/
theorem evolution_issued : Evolution fun r s : Registry H ↦ r.issued <+: s.issued where
  refl r := List.prefix_rfl
  trans := List.IsPrefix.trans
  register r key handler := by
    rw [issued_register]
    exact List.prefix_append _ _
  unregister r n := (r.reduced_unregister n).issued_eq ▸ List.prefix_rfl
  unregisterAll r key := (r.reduced_unregisterAll key).issued_eq ▸ List.prefix_rfl
  clear r := r.reduced_clear.issued_eq ▸ List.prefix_rfl
  reap r key := (r.reduced_reap key).issued_eq ▸ List.prefix_rfl

theorem evolution_consistent : Evolution fun r s : Registry H ↦ r.Consistent → s.Consistent where
  refl _ h := h
  trans hrs hst h := hst (hrs h)
  register _ key handler h := h.register key handler
  unregister _ n h := h.unregister n
  unregisterAll _ key h := h.unregisterAll key
  clear _ h := h.clear
  reap _ key h := by rwa [h.reap_eq]

namespace Consistent

variable {r : Registry H} (h : r.Consistent)

include h

theorem nodup_issued : (r.issued.map Prod.fst).Nodup := by
  simpa [issued, Function.comp_def] using h.nodup_ids

theorem mem_issued_of_mem {key : Key} {l : Listener H} (hl : l ∈ r.listeners key) :
    (l.id, key) ∈ r.issued := by
  obtain ⟨entry, hentry, _, hkey, hid⟩ := h.registration_of_mem hl
  exact List.mem_map.2 ⟨entry, hentry, by rw [hid, hkey]⟩

theorem pairwise_lt (key : Key) : ((r.listeners key).map Listener.id).Pairwise (· < ·) := by
  rw [h.listed]
  refine List.Pairwise.sublist (activeIds_sublist r.registrations key) ?_
  rw [h.numbered]
  exact List.pairwise_lt_range'

theorem nodup_listeners (key : Key) : ((r.listeners key).map Listener.id).Nodup :=
  (h.pairwise_lt key).imp Nat.ne_of_lt

/-- An active listener is listed once under its own key and under no other key; one that is not
active is not listed at all. -/
theorem count_id {entry : Registration} (hentry : entry ∈ r.registrations) (key : Key) :
    ((r.listeners key).map Listener.id).count entry.id =
      if r.isActive entry.id ∧ entry.key = key then 1 else 0 := by
  have hmem : entry.id ∈ (r.listeners key).map Listener.id ↔
      r.isActive entry.id ∧ entry.key = key := by
    rw [h.listed, mem_activeIds, h.isActive_iff]
    constructor
    · rintro ⟨other, hother, hactive, hkey, hid⟩
      rw [h.eq_of_id_eq hentry hother hid.symm]
      exact ⟨⟨other, hother, rfl, hactive⟩, hkey⟩
    · rintro ⟨⟨other, hother, hid, hactive⟩, hkey⟩
      rw [h.eq_of_id_eq hother hentry hid] at hactive
      exact ⟨entry, hentry, hactive, hkey, rfl⟩
  rw [(h.nodup_listeners key).count]
  simp only [hmem]

theorem count_eq_length (key : Key) : r.count key = (r.listeners key).length := by
  unfold count
  rw [List.filter_eq_self.2 fun l hl ↦ h.isActive_of_mem hl]

theorem mem_keys_iff (key : Key) : key ∈ r.keys ↔ 0 < r.count key := by
  rw [h.count_eq_length, List.length_pos_iff]
  unfold keys listeners
  rw [← Entries.isSome_get?]
  cases hget : Entries.get? key r.slots with
  | none => simp
  | some ls =>
    have hne : ls ≠ [] := by
      rintro rfl
      exact h.nonempty key hget
    simpa using hne

end Consistent

end Registry

namespace World

variable {H σ α : Type}

theorem consistent_of_visits {handling : Handling H σ} {levels : Nat}
    {program : RegistryProgram H σ α} {host : σ} {effects : List Effect} {w : World H σ}
    (h : Visits handling levels program ⟨Registry.empty, host, effects⟩ w) :
    w.registry.Consistent :=
  Registry.evolution_consistent.visits h Registry.consistent_empty

/-- A delivery in a consistent registry gives a turn to each listener of its key, and sweeps out
none. -/
theorem turns_of_deliverTo {call : Listener H → WorldM H σ Ending} {key : Key} {outcome : Outcome}
    {w w' : World H σ} (h : w.registry.Consistent)
    (hdeliver : deliverTo call key w = some (outcome, w')) :
    ∃ turns v, Turns call w turns v ∧ turns.map Turn.listener = w.registry.listeners key ∧
      outcome = Outcome.ofEndings (turns.filterMap Turn.ending) 0 ∧
      w'.registry = v.registry ∧ w'.host = v.host := by
  obtain ⟨found, w₀, hreap, hrest⟩ := bind_eq_some.1 hdeliver
  obtain ⟨hfound, rfl⟩ := onRegistry_eq_some.1 hreap
  rw [h.reap_eq] at hfound hrest
  cases hget : Entries.get? key w.registry.slots with
  | none =>
    rw [hget] at hfound
    subst hfound
    obtain ⟨_, _, hreport, hreturn⟩ := bind_eq_some.1 hrest
    obtain ⟨_, rfl⟩ := perform_eq_some.1 hreport
    obtain ⟨rfl, rfl⟩ := pure_eq_some.1 hreturn
    exact ⟨[], w, .nil, by simp [Registry.listeners, hget], rfl, rfl, rfl⟩
  | some ls =>
    rw [hget] at hfound
    subst hfound
    obtain ⟨endings, v, hendings, hrest⟩ := bind_eq_some.1 hrest
    obtain ⟨turns, hturns, hls, rfl⟩ := deliver_eq_some.1 hendings
    obtain ⟨_, _, hreport, hreturn⟩ := bind_eq_some.1 hrest
    obtain ⟨_, rfl⟩ := perform_eq_some.1 hreport
    obtain ⟨rfl, rfl⟩ := pure_eq_some.1 hreturn
    exact ⟨turns, v, hturns, by simp [Registry.listeners, hget, hls], rfl, rfl, rfl⟩

/-- A delivery comes to its end if every listener has had its turn. -/
theorem exists_deliverTo_eq_some {call : Listener H → WorldM H σ Ending} {key : Key}
    {turns : List (Turn H σ)} {w v : World H σ} (h : w.registry.Consistent)
    (hturns : Turns call w turns v) (hls : turns.map Turn.listener = w.registry.listeners key) :
    ∃ outcome w', deliverTo call key w = some (outcome, w') := by
  have hreap : onRegistry (fun r ↦ r.reap key) w =
      some ((Entries.get? key w.registry.slots).map fun ls ↦ (ls, 0), w) :=
    onRegistry_eq_some.2 (by simp [h.reap_eq])
  cases hget : Entries.get? key w.registry.slots with
  | none =>
    rw [hget] at hreap
    exact ⟨_, _, bind_eq_some.2 ⟨_, _, hreap, bind_eq_some.2
      ⟨_, _, perform_eq_some.2 ⟨rfl, rfl⟩, pure_eq_some.2 ⟨rfl, rfl⟩⟩⟩⟩
  | some ls =>
    rw [hget] at hreap
    have hls' : turns.map Turn.listener = ls := by simpa [Registry.listeners, hget] using hls
    have hdeliver := deliver_eq_some.2 ⟨turns, hturns, hls', rfl⟩
    exact ⟨_, _, bind_eq_some.2 ⟨_, _, hreap, bind_eq_some.2 ⟨_, _, hdeliver, bind_eq_some.2
      ⟨_, _, perform_eq_some.2 ⟨rfl, rfl⟩, pure_eq_some.2 ⟨rfl, rfl⟩⟩⟩⟩⟩

/-- In every world that a program comes through, those of its handlers included: a listener is
active if and only if the list of its key has it, and then once and no other list has it; the keys
are those with active listeners, and no list is empty; the lists are in the order of the ids; ids
are given out only once; and a delivery sweeps out none. -/
theorem listing_of_visits {handling : Handling H σ} {levels : Nat}
    {program : RegistryProgram H σ α} {host : σ} {effects : List Effect} {w : World H σ}
    (hvisits : Visits handling levels program ⟨Registry.empty, host, effects⟩ w) :
    (∀ entry ∈ w.registry.registrations, ∀ key,
      ((w.registry.listeners key).map Listener.id).count entry.id =
        if w.registry.isActive entry.id ∧ entry.key = key then 1 else 0) ∧
    (∀ key, ∀ l ∈ w.registry.listeners key, l.key = key ∧ (l.id, key) ∈ w.registry.issued) ∧
    (∀ key, Entries.get? key w.registry.slots ≠ some []) ∧
    w.registry.keys.Nodup ∧
    (∀ key, key ∈ w.registry.keys ↔ 0 < w.registry.count key) ∧
    (∀ key, ((w.registry.listeners key).map Listener.id).Pairwise (· < ·)) ∧
    (w.registry.issued.map Prod.fst).Nodup ∧
    (∀ key handler n w', register key handler w = some (n, w') →
      w'.registry.issued = w.registry.issued ++ [(n, key)]) ∧
    (∀ {β : Type} levels (after : RegistryProgram H σ β) w', Visits handling levels after w w' →
      w.registry.issued <+: w'.registry.issued) ∧
    ∀ levels cx outcome w', dispatch handling levels cx w = some (outcome, w') →
      outcome.reaped = 0 := by
  have h := consistent_of_visits hvisits
  refine ⟨fun _ ↦ h.count_id, fun key l hl ↦ ⟨h.owned key l hl, h.mem_issued_of_mem hl⟩,
    h.nonempty, h.distinct, h.mem_keys_iff, h.pairwise_lt, h.nodup_issued, ?_, ?_, ?_⟩
  · intro key handler n w' hregister
    obtain ⟨m, v, hv, hrest⟩ := bind_eq_some.1 hregister
    obtain ⟨rfl, rfl⟩ := onRegistry_eq_some.1 hv
    obtain ⟨_, _, hreport, hreturn⟩ := bind_eq_some.1 hrest
    obtain ⟨_, rfl⟩ := perform_eq_some.1 hreport
    obtain ⟨rfl, rfl⟩ := pure_eq_some.1 hreturn
    exact w.registry.issued_register key handler
  · intro β levels after w' hafter
    exact Registry.evolution_issued.visits hafter
  · intro levels cx outcome w' hdispatch
    cases levels with
    | zero => exact nomatch hdispatch
    | succ levels =>
      obtain ⟨turns, v, _, _, rfl, _⟩ := turns_of_deliverTo h hdispatch
      rfl

def shopKey : Key := ⟨"shop", "buy", by decide, by decide⟩

def purchase : Context := ⟨shopKey, .empty, ⟨⟨0⟩, none⟩, false⟩

/-- One kind of handler takes back all listeners of its key, registers another one and breaks
down; the other kind does nothing. -/
def replacing : Handling Bool Unit
  | true, cx =>
      .ask (.unregisterAll cx.key) fun _ ↦ .ask (.register cx.key false) fun _ ↦
        .finish (.panicked none)
  | false, _ => .finish .done

/-- Registers a handler of each kind and delivers an action to them. -/
def selling : RegistryProgram Bool Unit Outcome :=
  .ask (.register shopKey true) fun _ ↦ .ask (.register shopKey false) fun _ ↦
    .ask (.dispatch purchase) .finish

/-- The registry inside of a handler that has replaced all listeners, itself included. -/
theorem listing_of_visits_replacing :
    ∃ w, Visits replacing 1 selling ⟨Registry.empty, (), []⟩ w ∧
      w.registry.issued.map Prod.fst = [1, 2, 3] ∧ w.registry.keys = [shopKey] ∧
      0 < w.registry.count shopKey := by
  obtain ⟨w, hvisits, hissued, hkeys⟩ :
      ∃ w, Visits replacing 1 selling ⟨Registry.empty, (), []⟩ w ∧
        w.registry.issued.map Prod.fst = [1, 2, 3] ∧ w.registry.keys = [shopKey] := by
    refine ⟨_, .onward rfl (.onward rfl (.within [] rfl .nil rfl
      (.onward rfl (.onward rfl .here)))), ?_, ?_⟩
    · rfl
    · rfl
  obtain ⟨_, _, _, _, hmem, _⟩ := listing_of_visits hvisits
  exact ⟨w, hvisits, hissued, hkeys, (hmem shopKey).1 (by simp [hkeys])⟩

end World

end DialogKit
