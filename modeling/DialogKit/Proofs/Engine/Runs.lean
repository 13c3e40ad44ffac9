import DialogKit.Proofs.Addon.History
import DialogKit.Proofs.Addon.Registrations
import DialogKit.Proofs.Engine.Routing
import Mathlib.Logic.Relation

/-!
# Runs of engines

What a host does with an engine, one step after the other: it opens dialogs, has actions performed,
uses the registry, and manages addons. Each step takes the registry where its own operations lead,
and goes on with a lawful history of the addons, which tells those that are enabled.
-/

namespace DialogKit.Engine

variable {A M H σ α β : Type}

/-! ## Computations that leave the addons alone -/

/-- The same addons are enabled and being enabled, and the registry is where its operations lead. -/
structure Onward (e e' : Engine A M H σ) : Prop where
  lists : Platform.SameLists e.platform e'.platform
  registry : ∀ {R : Registry H → Registry H → Prop}, Registry.Evolution R →
    R e.registry e'.registry

theorem onward_refl (e : Engine A M H σ) : Onward e e :=
  ⟨⟨rfl, rfl⟩, fun hR ↦ hR.refl _⟩

theorem Onward.trans {e e' e'' : Engine A M H σ} (h : Onward e e') (h' : Onward e' e'') :
    Onward e e'' :=
  ⟨h.lists.trans h'.lists, fun hR ↦ hR.trans (h.registry hR) (h'.registry hR)⟩

theorem onward_inWorldOf {e : Engine A M H σ} {handling : Handling H σ} {levels : Nat}
    {program : RegistryProgram H σ α} {world : World H σ}
    (h : World.Visits handling levels program e.platform.world world) :
    Onward e (e.inWorldOf world) :=
  ⟨⟨rfl, rfl⟩, fun hR ↦ hR.visits h⟩

/-- The computation only leads onward. -/
def Passes (x : EngineM A M H σ α) : Prop :=
  ∀ e a e', x e = some (a, e') → Onward e e'

theorem passes_pure (a : α) : Passes (pure a : EngineM A M H σ α) := by
  intro e b e' h
  obtain ⟨_, rfl⟩ := pure_eq_some.1 h
  exact onward_refl e

theorem passes_bind {x : EngineM A M H σ α} {f : α → EngineM A M H σ β} (hx : Passes x)
    (hf : ∀ a, Passes (f a)) : Passes (x >>= f) := by
  intro e b e' h
  obtain ⟨a, e₁, he₁, he'⟩ := bind_eq_some.1 h
  exact (hx _ _ _ he₁).trans (hf a _ _ _ he')

theorem passes_get : Passes (get : EngineM A M H σ (Engine A M H σ)) := by
  rintro e _ _ ⟨⟩
  exact onward_refl e

theorem passes_perform (x : Effectful α) : Passes (perform x : EngineM A M H σ α) := by
  rintro e _ _ ⟨⟩
  exact ⟨⟨rfl, rfl⟩, fun hR ↦ hR.refl _⟩

theorem passes_dispatch (b : Behaviour A M H σ) (levels : Nat) (key : Key) (payload : Payload)
    (player : Player) : Passes (dispatch b levels key payload player) := by
  intro e outcome e' h
  obtain ⟨world, hworld, rfl⟩ := dispatch_eq_some.1 h
  exact ⟨⟨rfl, rfl⟩, fun hR ↦ hR.keeps_dispatch _ _ _ _ _ _ hworld⟩

theorem passes_openDialog (id : String) : Passes (openDialog id : EngineM A M H σ _) :=
  passes_bind passes_get fun _ ↦ passes_perform _

theorem passes_openDefault : Passes (openDefault : EngineM A M H σ _) := by
  refine passes_bind passes_get fun e ↦ ?_
  split
  · exact passes_openDialog _
  · exact passes_pure _

theorem passes_reload (catalog : Catalog) : Passes (reload catalog : EngineM A M H σ _) := by
  have hset (found : Validation.Report) :
      Passes (do
        modify fun e ↦ { e with catalog }
        report .info "dialog catalog reloaded" [.nat "dialogs" catalog.size]
        return found : EngineM A M H σ Validation.Report) := by
    refine passes_bind ?_ fun _ ↦ passes_bind (passes_perform _) fun _ ↦ passes_pure _
    rintro e _ _ ⟨⟩
    exact ⟨⟨rfl, rfl⟩, fun hR ↦ hR.refl _⟩
  refine passes_bind passes_get fun e ↦ ?_
  dsimp only
  split
  · exact passes_bind (passes_perform _) fun _ ↦ hset _
  · exact hset _

theorem passes_click (b : Behaviour A M H σ) (levels : Nat) (space value : String)
    (payload : Payload) (player : Player) : Passes (click b levels space value payload player) := by
  unfold click
  split
  · exact passes_bind (passes_dispatch _ _ _ _ _) fun _ ↦ passes_pure _
  · exact passes_bind (passes_perform _) fun _ ↦ passes_pure _

theorem passes_performAction (b : Behaviour A M H σ) (levels : Nat) (action : Action)
    (viewer : Option Viewer) (payload : Payload) :
    Passes (performAction b levels action viewer payload) := by
  refine passes_bind passes_get fun e ↦ ?_
  cases action with
  | close | goBack | copyToClipboard | showDialog | openUrl => exact passes_pure _
  | runCommand template scope =>
    refine passes_bind (passes_perform _) fun result ↦ ?_
    cases result <;> exact passes_pure _
  | suggestCommand template =>
    cases viewer with
    | none => exact passes_pure _
    | some viewer => exact passes_bind (passes_perform _) fun _ ↦ passes_pure _
  | custom key =>
    cases viewer with
    | none => exact passes_pure _
    | some viewer => exact passes_bind (passes_dispatch _ _ _ _ _) fun _ ↦ passes_pure _

theorem onPlatform_eq_some {x : PlatformM A M H σ α} {a : α} {e e' : Engine A M H σ} :
    onPlatform x e = some (a, e') ↔
      ∃ platform, x e.platform = some (a, platform) ∧ { e with platform } = e' := by
  simp [onPlatform, Option.map_eq_some_iff]

theorem passes_addKind (kind : Kind) : Passes (addKind kind : EngineM A M H σ Unit) := by
  intro e _ e' h
  obtain ⟨p, hp, rfl⟩ := onPlatform_eq_some.1 h
  exact ⟨Platform.sameLists_of_addKind hp, fun hR ↦ hR.platform_addKind kind _ _ _ hp⟩

/-! ## Shutting down -/

def clearedEvent (handlers : Nat) : Log.Event where
  level := .info
  target := "dialog_actions::registry"
  message := "cleared action registry"
  fields := [.nat "removed" handlers]

def shutDownEvent (addons handlers : Nat) : Log.Event where
  level := .info
  target := "dialog_engine::engine"
  message := "dialog engine shut down"
  fields := [.nat "addons" addons, .nat "handlers" handlers]

/-- The engine when all addons have been disabled and every registration is taken back. -/
def closed (e : Engine A M H σ) (p : Platform A M H σ) (addons : Nat) : Engine A M H σ :=
  let (handlers, registry) := p.world.registry.clear
  let effects := p.world.effects ++ [.log (clearedEvent handlers)] ++
    [.log (shutDownEvent addons handlers)]
  { e with platform := { p with world := { p.world with registry, effects } } }

theorem shutdown_eq_some {b : Behaviour A M H σ} {levels : Nat} {e e' : Engine A M H σ} :
    shutdown b levels e = some ((), e') ↔
      ∃ addons p, (Platform.management b.kit b.handling levels).disableAll e.platform =
        some (addons, p) ∧ e.closed p addons = e' := by
  unfold shutdown
  rw [bind_eq_some]
  refine exists_congr fun addons ↦ ?_
  simp only [onPlatform_eq_some]
  constructor
  · rintro ⟨_, ⟨p, hp, rfl⟩, ⟨⟩⟩
    exact ⟨p, hp, rfl⟩
  · rintro ⟨p, hp, rfl⟩
    exact ⟨_, ⟨p, hp, rfl⟩, rfl⟩

/-! ## Steps -/

/-- An engine, and what has happened to addons so far. -/
structure Situation (A M H σ : Type) where
  past : List (Stage A M)
  engine : Engine A M H σ

/-- What happens when the host makes a request to the manager of addons. -/
def Situation.next (s : Situation A M H σ) (b : Behaviour A M H σ) (levels : Nat)
    (request : AddonRequest A H σ) (e : Engine A M H σ) : Situation A M H σ :=
  ⟨s.past ++ Platform.requestStages b.kit b.handling levels request s.past s.engine.platform, e⟩

/-- What a host does with an engine. A program that uses the registry may be left at any world that
it comes through, those inside of handlers included. -/
inductive Step (b : Behaviour A M H σ) : Situation A M H σ → Situation A M H σ → Prop
  | openDialog {past e id answer e'} (h : openDialog id e = some (answer, e')) :
      Step b ⟨past, e⟩ ⟨past, e'⟩
  | openDefault {past e answer e'} (h : openDefault e = some (answer, e')) :
      Step b ⟨past, e⟩ ⟨past, e'⟩
  | reload {past e catalog report e'} (h : reload catalog e = some (report, e')) :
      Step b ⟨past, e⟩ ⟨past, e'⟩
  | click {past e levels space value payload player answer e'}
      (h : click b levels space value payload player e = some (answer, e')) :
      Step b ⟨past, e⟩ ⟨past, e'⟩
  | performAction {past e levels action viewer payload answer e'}
      (h : performAction b levels action viewer payload e = some (answer, e')) :
      Step b ⟨past, e⟩ ⟨past, e'⟩
  | useRegistry {past e levels α world} {program : RegistryProgram H σ α}
      (h : World.Visits b.handling levels program e.platform.world world) :
      Step b ⟨past, e⟩ ⟨past, e.inWorldOf world⟩
  | addKind {past e kind e'} (h : addKind kind e = some ((), e')) : Step b ⟨past, e⟩ ⟨past, e'⟩
  | enableAddon {s levels addon result e'}
      (h : enableAddon b levels addon s.engine = some (result, e')) :
      Step b s (s.next b levels (.enable addon) e')
  | disableAddon {s levels id result e'}
      (h : disableAddon b levels id s.engine = some (result, e')) :
      Step b s (s.next b levels (.disable id) e')
  | shutdown {s levels e'} (h : shutdown b levels s.engine = some ((), e')) :
      Step b s (s.next b levels .disableAll e')

/-- A step leads onward, or it is a request to the manager of addons. -/
theorem Step.cases {b : Behaviour A M H σ} {s s' : Situation A M H σ} (h : Step b s s') :
    Onward s.engine s'.engine ∧ s'.past = s.past ∨
    ∃ (levels : Nat) (request : AddonRequest A H σ) (answer : request.Answer)
      (p : Platform A M H σ),
      Platform.service b.kit b.handling levels request s.engine.platform = some (answer, p) ∧
      Platform.SameLists p s'.engine.platform ∧
      (∀ {R : Registry H → Registry H → Prop}, Registry.Evolution R →
        R p.world.registry s'.engine.registry) ∧
      s' = s.next b levels request s'.engine := by
  cases h with
  | openDialog h => exact .inl ⟨passes_openDialog _ _ _ _ h, rfl⟩
  | openDefault h => exact .inl ⟨passes_openDefault _ _ _ h, rfl⟩
  | reload h => exact .inl ⟨passes_reload _ _ _ _ h, rfl⟩
  | click h => exact .inl ⟨passes_click _ _ _ _ _ _ _ _ _ h, rfl⟩
  | performAction h => exact .inl ⟨passes_performAction _ _ _ _ _ _ _ _ h, rfl⟩
  | useRegistry h => exact .inl ⟨onward_inWorldOf h, rfl⟩
  | addKind h => exact .inl ⟨passes_addKind _ _ _ _ h, rfl⟩
  | enableAddon h =>
    obtain ⟨p, hp, rfl⟩ := onPlatform_eq_some.1 h
    exact .inr ⟨_, .enable _, _, p, hp, ⟨rfl, rfl⟩, fun hR ↦ hR.refl _, rfl⟩
  | disableAddon h =>
    obtain ⟨p, hp, rfl⟩ := onPlatform_eq_some.1 h
    exact .inr ⟨_, .disable _, _, p, hp, ⟨rfl, rfl⟩, fun hR ↦ hR.refl _, rfl⟩
  | shutdown h =>
    obtain ⟨addons, p, hp, rfl⟩ := shutdown_eq_some.1 h
    exact .inr ⟨_, .disableAll, _, p, hp, ⟨rfl, rfl⟩, fun hR ↦ hR.clear _, rfl⟩

variable {b : Behaviour A M H σ} {s s' : Situation A M H σ}

theorem Step.keeps {R : Registry H → Registry H → Prop} (hR : Registry.Evolution R)
    (h : Step b s s') : R s.engine.registry s'.engine.registry := by
  obtain ⟨honward, _⟩ | ⟨levels, request, answer, p, hserve, _, hregistry, _⟩ := h.cases
  · exact honward.registry hR
  · exact hR.trans (hR.platform_service b.kit b.handling levels request _ _ _ hserve)
      (hregistry hR)

/-- The history is lawful, and tells the addons of the engine. -/
structure Situation.Faithful (b : Behaviour A M H σ) (s : Situation A M H σ) : Prop where
  lawful : Stage.Lawful b.kit.id s.past
  mirrors : Platform.Mirrors b.kit s.past s.engine.platform

theorem Step.faithful (h : Step b s s') (hs : s.Faithful b) : s'.Faithful b := by
  obtain ⟨honward, hpast⟩ | ⟨levels, request, answer, p, hserve, hlists, _, hnext⟩ := h.cases
  · constructor
    · rw [hpast]
      exact hs.lawful
    · rw [hpast]
      exact hs.mirrors.sameLists honward.lists
  · obtain ⟨hlawful, hends⟩ := Platform.tracks_service b.kit b.handling levels request s.past
      s.engine.platform hs.lawful hs.mirrors List.nodup_nil (by simp)
    rw [hnext]
    exact ⟨hlawful, (hends answer p hserve).mirrors.sameLists hlists⟩

/-! ## Runs -/

/-- The host leads an engine from one situation to another. -/
abbrev Leads (b : Behaviour A M H σ) : Situation A M H σ → Situation A M H σ → Prop :=
  Relation.ReflTransGen (Step b)

/-- Where every run begins. -/
def Situation.start (parts : EngineParts) (host : σ) : Situation A M H σ :=
  ⟨[], build parts host⟩

theorem keeps_of_leads {R : Registry H → Registry H → Prop} (hR : Registry.Evolution R)
    (h : Leads b s s') : R s.engine.registry s'.engine.registry := by
  induction h with
  | refl => exact hR.refl _
  | tail _ hstep ih => exact hR.trans ih (hstep.keeps hR)

theorem faithful_of_leads {parts : EngineParts} {host : σ}
    (h : Leads b (.start parts host) s) : s.Faithful b := by
  induction h with
  | refl => exact ⟨Stage.lawful_nil, ⟨rfl, rfl⟩⟩
  | tail _ hstep ih => exact hstep.faithful ih

theorem consistent_of_leads {parts : EngineParts} {host : σ} (h : Leads b (.start parts host) s) :
    s.engine.registry.Consistent :=
  keeps_of_leads Registry.evolution_consistent h Registry.consistent_empty

end DialogKit.Engine
