import DialogKit.Proofs.Addon.History
import DialogKit.Proofs.Addon.Registrations

/-!
# Disabling all addons

All addons leave the list at once, and then their programs for disabling are called one after the
other, in the reverse of the order of the list. However one of them ends, the next has its turn; the
count is that of the programs that ended well. If the programs act through the contexts of their
addons alone, these calls are all that happens to addons, and the list stays empty.
-/

namespace DialogKit

variable {A M H σ α : Type}

/-- The context of an addon serves the request. -/
def AddonRequest.OfContext : AddonRequest A H σ → Prop
  | .act _ | .addKind _ => True
  | .enable _ | .disable _ | .disableAll => False

/-- The program acts through the context of its addon alone. -/
inductive ThroughContext : AddonProgram A H σ α → Prop
  | finish (result : α) : ThroughContext (.finish result)
  | ask {request : AddonRequest A H σ} {next : request.Answer → AddonProgram A H σ α}
      (here : request.OfContext) (rest : ∀ answer, ThroughContext (next answer)) :
      ThroughContext (.ask request next)

namespace Platform

variable {kit : AddonKit A M H σ} {handling : Handling H σ} {levels : Nat}
  {p q : Platform A M H σ}

/-! ## Programs that act through contexts -/

section

variable {request : AddonRequest A H σ}

theorem sameLists_of_ofContext (h : request.OfContext) {answer : request.Answer}
    (hserve : service kit handling levels request p = some (answer, q)) : SameLists p q := by
  cases request with
  | act request => exact sameLists_of_inWorld hserve
  | addKind kind => exact sameLists_of_addKind hserve
  | enable | disable | disableAll => exact h.elim

theorem requestStages_of_ofContext (h : request.OfContext) (past : List (Stage A M))
    (p : Platform A M H σ) : requestStages kit handling levels request past p = [] := by
  cases request with
  | act | addKind => cases levels <;> rfl
  | enable | disable | disableAll => exact h.elim

end

end Platform

namespace ThroughContext

open Platform

variable {kit : AddonKit A M H σ} {handling : Handling H σ} {levels : Nat}
  {program : AddonProgram A H σ α} {p q : Platform A M H σ}

theorem sameLists (h : ThroughContext program) {a : α}
    (hrun : program.run (service kit handling levels) p = some (a, q)) : SameLists p q := by
  induction h generalizing p with
  | finish result => exact sameLists_of_pure hrun
  | ask here _ ih =>
    obtain ⟨answer, r, hserve, hrest⟩ := bind_eq_some.1 hrun
    exact (sameLists_of_ofContext here hserve).trans (ih answer hrest)

/-- Nothing happens to addons. -/
theorem stagesOf_eq_nil (h : ThroughContext program) (past : List (Stage A M))
    (p : Platform A M H σ) : stagesOf kit handling levels program past p = [] := by
  induction h generalizing past p with
  | finish result => rfl
  | @ask request next here _ ih =>
    have hstages : requestStages kit handling levels request past p = [] :=
      requestStages_of_ofContext here past p
    unfold stagesOf programStages thenStages
    rw [hstages, List.nil_append]
    split
    · rfl
    · exact ih _ _ _

/-- Registrations that an evolution follows are followed from any platform on the way to where the
program ends. -/
theorem keeps_of_visits {R : Registry H → Registry H → Prop} (hR : Registry.Evolution R)
    (h : ThroughContext program) {v : Platform A M H σ}
    (hvisits : Visits kit handling levels program p v) {a : α}
    (hrun : program.run (service kit handling levels) p = some (a, q)) :
    R v.world.registry q.world.registry := by
  induction hvisits with
  | here => exact hR.platform_run (hR.platform_service kit handling _) _ _ _ _ hrun
  | @onward α levels request next p answer r v hserve _ ih =>
    obtain ⟨answer', r', hserve', hrest⟩ := bind_eq_some.1 hrun
    obtain ⟨rfl, rfl⟩ := Prod.mk.inj (Option.some.inj (hserve.symm.trans hserve'))
    cases h with
    | ask _ rest => exact ih (rest _) hrest
  | enabling | disabling | disablingAll => cases h with | ask here _ => exact here.elim

end ThroughContext

namespace Platform

variable {kit : AddonKit A M H σ} {p q : Platform A M H σ}

/-! ## All addons -/

section

variable {handling : Handling H σ} {levels : Nat} {stops : List (Stop A M H σ)}

theorem Stops.keeps {R : Registry H → Registry H → Prop} (hR : Registry.Evolution R)
    (hstops : Stops kit (Program.run (service kit handling levels)) p stops q) :
    R p.world.registry q.world.registry := by
  induction hstops with
  | nil => exact hR.refl _
  | cons hrun _ ih =>
    exact hR.trans (hR.platform_run (hR.platform_service kit handling levels) _ _ _ _ hrun) ih

variable
  (hcontext : ∀ stop ∈ stops, ThroughContext (kit.onDisable stop.entry.addon stop.entry.memory))
  (hstops : Stops kit (Program.run (service kit handling levels)) p stops q)

include hcontext hstops

theorem Stops.sameLists : SameLists p q := by
  induction hstops with
  | nil => exact ⟨rfl, rfl⟩
  | cons hrun _ ih =>
    obtain ⟨hfirst, hothers⟩ := List.forall_mem_cons.1 hcontext
    exact ((hfirst.sameLists hrun).trans (sameLists_after _ _)).trans (ih hothers)

/-- An evolution leads from every platform that the programs come through to the end. -/
theorem Stops.keeps_of_visits {R : Registry H → Registry H → Prop} (hR : Registry.Evolution R)
    {stop : Stop A M H σ} (hstop : stop ∈ stops) {v : Platform A M H σ}
    (hvisits : Visits kit handling levels
      (kit.onDisable stop.entry.addon stop.entry.memory) stop.platform v) :
    R v.world.registry q.world.registry := by
  induction hstops with
  | nil => simp at hstop
  | @cons entry ended stops p q r hrun hrest ih =>
    obtain ⟨hfirst, hothers⟩ := List.forall_mem_cons.1 hcontext
    rcases List.mem_cons.1 hstop with rfl | hstop
    · have honward := hrest.keeps hR
      exact hR.trans (hfirst.keeps_of_visits hR hvisits hrun) honward
    · exact ih hothers hstop

/-- The calls are all that happens to addons. -/
theorem Stops.shutDownAllStages_eq {listed : List (Nat × EnabledAddon A M)}
    (hlisted : listed.map Prod.snd = stops.map Stop.entry) (past : List (Stage A M)) :
    shutDownAllStages kit (Program.run (service kit handling levels))
      (stagesOf kit handling levels) listed past p = listed.map fun x ↦ .stopping x.1 := by
  induction hstops generalizing listed past with
  | nil =>
    obtain rfl := List.map_eq_nil_iff.1 hlisted
    rfl
  | cons hrun _ ih =>
    obtain ⟨hfirst, hothers⟩ := List.forall_mem_cons.1 hcontext
    obtain ⟨x, rest, rfl, rfl, hrest⟩ := List.map_eq_cons_iff.1 hlisted
    have hstages (p : Platform A M H σ) :
        shutDownStages kit (stagesOf kit handling levels) x past p = [.stopping x.1] :=
      congrArg (List.cons _) (hfirst.stagesOf_eq_nil _ p)
    rw [shutDownAllStages_cons_of_eq_some _ _ hrun, hstages, ih hothers hrest]
    rfl

end

/-- Disabling addons that act through contexts only calls programs that do. -/
theorem throughContext_of_mem
    (hcontext : ∀ entry ∈ p.enabled, ThroughContext (kit.onDisable entry.addon entry.memory))
    {stops : List (Stop A M H σ)} (hentries : stops.map Stop.entry = p.enabled.reverse) :
    ∀ stop ∈ stops, ThroughContext (kit.onDisable stop.entry.addon stop.entry.memory) := by
  intro stop hstop
  refine hcontext stop.entry (List.mem_reverse.1 ?_)
  rw [← hentries]
  exact List.mem_map_of_mem hstop

/-- If the addons act through contexts, disabling all of them takes the list, and calls the program
of each object in it once, in the reverse order. -/
theorem requestStages_disableAll {past : List (Stage A M)} {handling : Handling H σ} {levels : Nat}
    (hmirrors : Mirrors kit past p)
    (hcontext : ∀ entry ∈ p.enabled, ThroughContext (kit.onDisable entry.addon entry.memory))
    {count : Nat} (h : (management kit handling (levels + 1)).disableAll p = some (count, q)) :
    let ns := ((Flow.listing.pending past).map Prod.fst).reverse
    requestStages kit handling (levels + 1) .disableAll past p =
      .taken ns :: (ns.map fun n ↦ .stopping n) ++ [.released ns] := by
  intro ns
  obtain ⟨stops, hstops, hentries, _⟩ := disableAll_eq_some.1 h
  have hlisted : (Flow.listing.pending past).reverse.map Prod.snd = p.enabled.reverse := by
    rw [List.map_reverse, hmirrors.enabled]
  have hns : (Flow.listing.pending past).reverse.map Prod.fst = ns := List.map_reverse
  have hshut :=
    (hmirrors.disableAllWith_apply (Program.run (service kit handling levels))).symm.trans h
  have hstages := hstops.shutDownAllStages_eq (throughContext_of_mem hcontext hentries)
    (hlisted.trans hentries.symm)
  have hrequest : requestStages kit handling (levels + 1) .disableAll past p = _ :=
    disableAllStages_of_eq_some (stagesOf kit handling levels) hshut
  rw [hrequest, hns, hstages, ← hns, List.map_map]
  rfl

end Platform

end DialogKit
