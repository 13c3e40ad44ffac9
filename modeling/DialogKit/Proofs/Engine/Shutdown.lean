import DialogKit.Proofs.Addon.Shutdown
import DialogKit.Proofs.Engine.Runs
import DialogKit.Proofs.Registry.Accounts

/-!
# Shutting down an engine

Shutting down disables all addons and then takes back every registration. The order matters: what an
addon registers while it is disabled is taken back with the rest, so nothing is left active, and no
action calls anything until something new is registered.
-/

namespace DialogKit

/-! ## Registries at rest -/

namespace Registry

variable {H : Type} {r s : Registry H}

/-- A registry has no keys if and only if none of its registrations is active. -/
theorem Consistent.keys_eq_nil_iff (h : r.Consistent) :
    r.keys = [] ↔ ∀ n, r.isActive n = false := by
  constructor
  · intro hkeys n
    by_contra hactive
    obtain ⟨entry, hentry, rfl, hset⟩ := h.isActive_iff.1 (by simpa using hactive)
    have hlisted : entry.id ∈ (r.listeners entry.key).map Listener.id := by
      rw [h.listed]
      exact Registration.mem_activeIds.2 ⟨entry, hentry, hset, rfl, rfl⟩
    have hcount : 0 < r.count entry.key := by
      rw [h.count_eq_length, ← List.length_map Listener.id]
      exact List.length_pos_of_mem hlisted
    have hkey := (h.mem_keys_iff entry.key).2 hcount
    simp [hkeys] at hkey
  · intro hinactive
    refine List.eq_nil_iff_forall_not_mem.2 fun key hkey ↦ ?_
    have hcount := (h.mem_keys_iff key).1 hkey
    simp [count, hinactive] at hcount

theorem Consistent.inactive_of_mem_issued (h : r.Consistent) {n : Nat} {key : Key}
    (hissued : (n, key) ∈ r.issued) (hactive : r.isActive n = false) : r.Inactive n := by
  obtain ⟨entry, hentry, heq⟩ := List.mem_map.1 hissued
  obtain ⟨rfl, rfl⟩ := Prod.mk.inj heq
  have hfound := h.registration?_eq_some.2 ⟨hentry, rfl⟩
  refine ⟨entry, hfound, ?_⟩
  simpa [isActive, hfound] using hactive

/-- Without new registrations, a registry without keys stays without keys. -/
theorem Consistent.keys_eq_nil_of_issued_eq (hr : r.Consistent) (hs : s.Consistent)
    (hissued : s.issued = r.issued) (hinactive : ∀ n, r.Inactive n → s.Inactive n)
    (hkeys : r.keys = []) : s.keys = [] := by
  rw [hs.keys_eq_nil_iff]
  intro n
  by_contra hactive
  obtain ⟨entry, hentry, rfl, _⟩ := hs.isActive_iff.1 (by simpa using hactive)
  have hmem : (entry.id, entry.key) ∈ r.issued := by
    rw [← hissued]
    exact List.mem_map_of_mem hentry
  have hrest := hr.inactive_of_mem_issued hmem (hr.keys_eq_nil_iff.1 hkeys entry.id)
  exact hactive (hinactive entry.id hrest).isActive_eq_false

end Registry

namespace World

variable {H σ : Type}

/-- What is reported of an action that nobody listens to. -/
def unheardEvent (key : Key) : Log.Event where
  level := .trace
  target := "dialog_actions::registry"
  message := "no handlers for action"
  fields := [.bare "key" key.text]

/-- A registry without keys delivers to nobody. -/
theorem dispatch_of_keys_eq_nil {w : World H σ} (h : w.registry.keys = [])
    (handling : Handling H σ) (levels : Nat) (cx : Context) :
    dispatch handling (levels + 1) cx w =
      some ({}, { w with effects := w.effects ++ [.log (unheardEvent cx.key)] }) := by
  obtain ⟨⟨slots, registrations⟩, host, effects⟩ := w
  obtain rfl : slots = [] := List.map_eq_nil_iff.1 h
  rfl

end World

namespace Engine

open Platform (Stop Stops)

variable {A M H σ : Type} {b : Behaviour A M H σ} {levels : Nat} {s : Situation A M H σ}
  {e e' : Engine A M H σ}

/-! ## Engines at rest -/

/-- No registration of the engine is active, and none is called until something new is
registered. -/
structure AtRest (b : Behaviour A M H σ) (e : Engine A M H σ) : Prop where
  keys : e.registry.keys = []
  inactive : ∀ n, e.registry.isActive n = false
  silent : ∀ past s, Leads b ⟨past, e⟩ s → s.engine.registry.issued = e.registry.issued →
    ∀ levels key payload player, dispatch b (levels + 1) key payload player s.engine =
      some ({}, s.engine.after [.log (World.unheardEvent key)])

theorem atRest_of_keys_eq_nil (h : e.registry.Consistent) (hkeys : e.registry.keys = [])
    (b : Behaviour A M H σ) : AtRest b e where
  keys := hkeys
  inactive := h.keys_eq_nil_iff.1 hkeys
  silent past s hleads hissued levels key payload player := by
    have hs := keeps_of_leads Registry.evolution_consistent hleads h
    have hkeys' := h.keys_eq_nil_of_issued_eq hs hissued
      (fun n ↦ keeps_of_leads (Registry.evolution_inactive n) hleads) hkeys
    exact dispatch_eq_some.2 ⟨_, World.dispatch_of_keys_eq_nil hkeys' b.handling levels _, rfl⟩

/-! ## Shutdown -/

/-- The programs for disabling the addons of the engine are called one after the other, in the
reverse of the order of the list. -/
structure Calls (b : Behaviour A M H σ) (levels : Nat) (e : Engine A M H σ)
    (stops : List (Stop A M H σ)) (p : Platform A M H σ) : Prop where
  chain : Stops b.kit (Program.run (Platform.service b.kit b.handling levels))
    { e.platform with enabled := [] } stops p
  entries : stops.map Stop.entry = e.platform.enabled.reverse

theorem shutdown_succ_eq_some : shutdown b (levels + 1) e = some ((), e') ↔
    ∃ stops p, Calls b levels e stops p ∧
      e.closed p (stops.countP fun stop ↦ stop.ended.isOk) = e' := by
  simp only [shutdown_eq_some, Platform.disableAll_eq_some]
  constructor
  · rintro ⟨_, p, ⟨stops, hstops, hentries, rfl⟩, rfl⟩
    exact ⟨stops, p, ⟨hstops, hentries⟩, rfl⟩
  · rintro ⟨stops, p, ⟨hstops, hentries⟩, rfl⟩
    exact ⟨_, p, ⟨stops, hstops, hentries, rfl⟩, rfl⟩

/-- The engine of the situation has been shut down, which leads to the given one. -/
structure ShutDown (b : Behaviour A M H σ) (levels : Nat) (s : Situation A M H σ)
    (e : Engine A M H σ) : Prop where
  /-- Each enabled addon is called, however those before it have ended, and the good ends are
  counted. What is registered meanwhile is on record in the end. -/
  called : ∃ stops p, Calls b levels s.engine stops p ∧
    (Platform.management b.kit b.handling (levels + 1)).disableAll s.engine.platform =
      some (stops.countP fun stop ↦ stop.ended.isOk, p) ∧
    e = s.engine.closed p (stops.countP fun stop ↦ stop.ended.isOk) ∧
    ∀ stop ∈ stops, ∀ v, Platform.Visits b.kit b.handling levels
      (b.kit.onDisable stop.entry.addon stop.entry.memory) stop.platform v →
      v.world.registry.issued <+: e.registry.issued
  /-- Nothing else happens to addons: each object in the list is called once. -/
  history : let ns := ((Flow.listing.pending s.past).map Prod.fst).reverse
    Platform.requestStages b.kit b.handling (levels + 1) .disableAll s.past s.engine.platform =
      .taken ns :: (ns.map fun n ↦ .stopping n) ++ [.released ns]
  addons : addons b e = []
  rest : AtRest b e

/-- If the programs act through the contexts of their addons, the engine has been shut down. -/
theorem shutDown_of_shutdown (hfaithful : s.Faithful b)
    (hcontext : ∀ entry ∈ s.engine.platform.enabled,
      ThroughContext (b.kit.onDisable entry.addon entry.memory))
    (hconsistent : e.registry.Consistent)
    (h : shutdown b (levels + 1) s.engine = some ((), e)) : ShutDown b levels s e := by
  obtain ⟨stops, p, hcalls, rfl⟩ := shutdown_succ_eq_some.1 h
  have hstops := Platform.throughContext_of_mem hcontext hcalls.entries
  have hdisabled := Platform.disableAll_eq_some.2 ⟨stops, hcalls.chain, hcalls.entries, rfl⟩
  refine ⟨⟨stops, p, hcalls, hdisabled, rfl, fun stop hstop v hvisits ↦ ?_⟩,
    Platform.requestStages_disableAll hfaithful.mirrors hcontext hdisabled, ?_,
    atRest_of_keys_eq_nil hconsistent (Registry.keys_clear _) b⟩
  · have hissued := hcalls.chain.keeps_of_visits hstops Registry.evolution_issued hstop hvisits
    exact hissued.trans (Registry.evolution_issued.clear p.world.registry)
  · have hlists := hcalls.chain.sameLists hstops
    exact List.map_eq_nil_iff.2 hlists.enabled

/-- Shutting down leaves nothing active. From wherever a host has led an engine, if the enabled
addons act through their contexts when they are disabled, their programs are called once each, in
the reverse of the order in which they came to be enabled, whatever becomes of the others; and if
the calls come to their ends, the engine is shut down, with the count of those that ended well.
Then no addon is enabled and no key is listened to. All registrations that there have been, those
of the last calls included, are on record as inactive, and actions call nothing until something new
is registered. -/
theorem shutDown_of_leads {parts : EngineParts} {host : σ}
    (hleads : Leads b (.start parts host) s)
    (hcontext : ∀ entry ∈ s.engine.platform.enabled,
      ThroughContext (b.kit.onDisable entry.addon entry.memory)) (levels : Nat) :
    s.engine.platform.enabled = (Flow.listing.pending s.past).map Prod.snd ∧
    ((Flow.listing.pending s.past).map Prod.fst).Nodup ∧
    ((∃ e, shutdown b (levels + 1) s.engine = some ((), e)) ↔
      ∃ stops p, Calls b levels s.engine stops p) ∧
    ∀ e, shutdown b (levels + 1) s.engine = some ((), e) →
      ShutDown b levels s e ∧
      ∀ earlier, Leads b (.start parts host) earlier → Leads b earlier s →
        earlier.engine.registry.issued <+: e.registry.issued := by
  have hfaithful := faithful_of_leads hleads
  refine ⟨hfaithful.mirrors.enabled, hfaithful.lawful.sound.listing.nodup_pending, ?_, ?_⟩
  · simp only [shutdown_succ_eq_some]
    constructor
    · rintro ⟨_, stops, p, hcalls, _⟩
      exact ⟨stops, p, hcalls⟩
    · rintro ⟨stops, p, hcalls⟩
      exact ⟨_, stops, p, hcalls, rfl⟩
  · intro e hshutdown
    have hstep : Step b s (s.next b (levels + 1) .disableAll e) := .shutdown hshutdown
    have hconsistent : e.registry.Consistent := consistent_of_leads (hleads.tail hstep)
    refine ⟨shutDown_of_shutdown hfaithful hcontext hconsistent hshutdown, ?_⟩
    intro earlier _ hlater
    exact keeps_of_leads Registry.evolution_issued (hlater.tail hstep)

/-- Two addons that listen for purchases once they are enabled. When the bank is disabled, it
begins to listen once more, and fails. -/
def lateKit : AddonKit Bool Unit Bool Unit where
  id shop := if shop then "shop" else "bank"
  version _ := "1.0"
  onEnable _ _ := .ask (.act (.register World.shopKey false)) fun _ ↦ .finish (.ok ())
  onDisable shop _ :=
    if shop then .finish (.ok ())
    else .ask (.act (.register World.shopKey false)) fun _ ↦ .finish (.error "late")

theorem throughContext_lateKit (shop : Bool) (memory : Unit) :
    ThroughContext (lateKit.onDisable shop memory) := by
  cases shop with
  | true => exact .finish _
  | false => exact .ask trivial fun _ ↦ .finish _

/-- The bank is called first and fails, the shop is called all the same, and the late listener is
gone with the others. -/
theorem shutDown_of_leads_late :
    let b : Behaviour Bool Unit Bool Unit := ⟨lateKit, fun _ _ ↦ .finish .done⟩
    ∃ s e, Leads b (.start {} ()) s ∧
      s.engine.platform.enabled = [⟨true, ()⟩, ⟨false, ()⟩] ∧
      s.engine.registry.keys = [World.shopKey] ∧
      (∃ stops p, Calls b 0 s.engine stops p) ∧
      shutdown b 1 s.engine = some ((), e) ∧ ShutDown b 0 s e ∧
      e.registry.issued.map Prod.fst = [1, 2, 3] ∧ e.registry.isActive 3 = false := by
  intro b
  let enabling : EngineM Bool Unit Bool Unit (Except AddonFault Bool) := do
    let _ ← enableAddon b 1 true
    enableAddon b 1 false
  let start : Situation Bool Unit Bool Unit := .start {} ()
  have hrun : (enabling start.engine).map (fun x ↦ (x.2.platform.enabled, x.2.registry.keys,
      (shutdown b 1 x.2).map fun y ↦ y.2.registry.issued.map Prod.fst)) =
        some ([⟨true, ()⟩, ⟨false, ()⟩], [World.shopKey], some [1, 2, 3]) := by
    decide +kernel
  obtain ⟨⟨result, e₂⟩, henabling, hfacts⟩ := Option.map_eq_some_iff.1 hrun
  obtain ⟨_, e₁, hshop, hbank⟩ := bind_eq_some.1 henabling
  obtain ⟨henabled, hfacts⟩ := Prod.mk.inj hfacts
  obtain ⟨hkeys, hissued⟩ := Prod.mk.inj hfacts
  obtain ⟨⟨_, e⟩, hshutdown, hissued⟩ := Option.map_eq_some_iff.1 hissued
  have hleads := (Relation.ReflTransGen.single (Step.enableAddon (s := start) hshop)).tail
    (.enableAddon (s := start.next b 1 (.enable true) e₁) hbank)
  obtain ⟨_, _, hcalls, hends⟩ := shutDown_of_leads hleads
    (fun entry _ ↦ throughContext_lateKit entry.addon entry.memory) 0
  have hdown := (hends e hshutdown).1
  exact ⟨_, e, hleads, henabled, hkeys, hcalls.1 ⟨e, hshutdown⟩, hshutdown, hdown, hissued,
    hdown.rest.inactive 3⟩

end Engine

end DialogKit
