import DialogKit.Registry.Dispatch
import Mathlib.Data.List.Basic

/-!
# Runs of programs that use a registry

A program comes through many worlds: one after each of its requests, and those of the handlers that
its deliveries call, which are programs in turn. A relation that each request keeps to holds between
the first of these worlds and any other, and one that each operation of the registry keeps to holds
between their registries.
-/

namespace DialogKit

section

variable {ρ α β : Type}

theorem pure_eq_some {a b : α} {s s' : ρ} :
    (pure a : StateT ρ Option α) s = some (b, s') ↔ a = b ∧ s = s' := by
  change some (a, s) = some (b, s') ↔ _
  simp

theorem bind_eq_some {x : StateT ρ Option α} {f : α → StateT ρ Option β} {b : β} {s s' : ρ} :
    (x >>= f) s = some (b, s') ↔ ∃ a t, x s = some (a, t) ∧ f a t = some (b, s') := by
  simp [bind, StateT.bind, Option.bind_eq_some_iff]

theorem bind_pure_apply (x : StateT ρ Option α) (f : α → β) (s : ρ) :
    (x >>= fun a ↦ pure (f a)) s = (x s).map fun (a, t) ↦ (f a, t) := by
  change ((x s).bind fun (a, t) ↦ some (f a, t)) = _
  cases x s <;> rfl

end

/-- A relation between a registry and what becomes of it. -/
structure Registry.Evolution {H : Type} (R : Registry H → Registry H → Prop) : Prop where
  refl : ∀ r, R r r
  trans : ∀ {r s t}, R r s → R s t → R r t
  register : ∀ r key handler, R r (r.register key handler).2
  unregister : ∀ r n, R r (r.unregister n).2
  unregisterAll : ∀ r key, R r (r.unregisterAll key).2
  clear : ∀ r, R r r.clear.2
  reap : ∀ r key, R r (r.reap key).2

namespace World

variable {H σ α β : Type}

theorem perform_eq_some {x : Effectful α} {a : α} {w w' : World H σ} :
    perform x w = some (a, w') ↔
      x.result = a ∧ { w with effects := w.effects ++ x.notes } = w' := by
  simp [perform, modifyGet, MonadStateOf.modifyGet, StateT.modifyGet, pure]

theorem onRegistry_eq_some {operation : Registry H → α × Registry H} {a : α} {w w' : World H σ} :
    onRegistry operation w = some (a, w') ↔
      (operation w.registry).1 = a ∧ { w with registry := (operation w.registry).2 } = w' := by
  simp [onRegistry, modifyGet, MonadStateOf.modifyGet, StateT.modifyGet, pure]

/-! ## Turns -/

/-- The turn of a listener: the world in which it comes, and how the handler ended if it was
called. -/
structure Turn (H σ : Type) where
  listener : Listener H
  world : World H σ
  ending : Option Ending

/-- The turns that listeners get one after the other on the way from a world to another. -/
inductive Turns (call : Listener H → WorldM H σ Ending) :
    World H σ → List (Turn H σ) → World H σ → Prop
  | nil {w} : Turns call w [] w
  | called {l w ending v v' turns w'} (hactive : w.registry.isActive l.id = true)
      (hcall : call l w = some (ending, v)) (hreport : reportEnding l ending v = some ((), v'))
      (hrest : Turns call v' turns w') : Turns call w (⟨l, w, some ending⟩ :: turns) w'
  | passed {l w turns w'} (hinactive : w.registry.isActive l.id = false)
      (hrest : Turns call w turns w') : Turns call w (⟨l, w, none⟩ :: turns) w'

theorem deliver_cons_of_active {call : Listener H → WorldM H σ Ending} {l : Listener H}
    {rest : List (Listener H)} {w : World H σ} (h : w.registry.isActive l.id = true) :
    deliver call (l :: rest) w = (do
      let ending ← call l
      reportEnding l ending
      return ending :: (← deliver call rest) : WorldM H σ (List Ending)) w := by
  simp [deliver, bind, StateT.bind, get, getThe, MonadStateOf.get, StateT.get, pure, h]

theorem deliver_cons_of_inactive {call : Listener H → WorldM H σ Ending} {l : Listener H}
    {rest : List (Listener H)} {w : World H σ} (h : w.registry.isActive l.id = false) :
    deliver call (l :: rest) w = deliver call rest w := by
  simp [deliver, bind, StateT.bind, get, getThe, MonadStateOf.get, StateT.get, pure, h]

theorem deliver_eq_some {call : Listener H → WorldM H σ Ending} {ls : List (Listener H)}
    {endings : List Ending} {w w' : World H σ} :
    deliver call ls w = some (endings, w') ↔
      ∃ turns, Turns call w turns w' ∧ turns.map Turn.listener = ls ∧
        turns.filterMap Turn.ending = endings := by
  constructor
  · intro h
    induction ls generalizing w endings with
    | nil =>
      obtain ⟨rfl, rfl⟩ := pure_eq_some.1 h
      exact ⟨[], .nil, rfl, rfl⟩
    | cons l rest ih =>
      cases hactive : w.registry.isActive l.id with
      | false =>
        rw [deliver_cons_of_inactive hactive] at h
        obtain ⟨turns, hturns, hls, hendings⟩ := ih h
        exact ⟨⟨l, w, none⟩ :: turns, .passed hactive hturns, by simp [hls], by simp [hendings]⟩
      | true =>
        simp only [deliver_cons_of_active hactive, bind_eq_some, pure_eq_some] at h
        obtain ⟨ending, v, hcall, ⟨⟩, v', hreport, others, _, hrest, rfl, rfl⟩ := h
        obtain ⟨turns, hturns, hls, hendings⟩ := ih hrest
        exact ⟨⟨l, w, some ending⟩ :: turns, .called hactive hcall hreport hturns, by simp [hls],
          by simp [hendings]⟩
  · rintro ⟨turns, hturns, rfl, rfl⟩
    induction hturns with
    | nil => exact pure_eq_some.2 ⟨rfl, rfl⟩
    | passed hinactive _ ih =>
      simpa [deliver_cons_of_inactive hinactive] using ih
    | called hactive hcall hreport _ ih =>
      simp only [List.map_cons, deliver_cons_of_active hactive, bind_eq_some, pure_eq_some]
      exact ⟨_, _, hcall, (), _, hreport, _, _, ih, rfl, rfl⟩

/-! ## Visited worlds -/

/-- Calls a listener with the action that is delivered. -/
def call (handling : Handling H σ) (levels : Nat) (cx : Context) (l : Listener H) :
    WorldM H σ Ending :=
  (handling l.handler cx).run (serve (dispatch handling levels))

theorem dispatch_succ (handling : Handling H σ) (levels : Nat) (cx : Context) :
    dispatch handling (levels + 1) cx = deliverTo (call handling levels cx) cx.key := rfl

/-- The worlds that a program comes through: the one where it starts, those after its requests, and
those that the handlers it calls come through. -/
inductive Visits (handling : Handling H σ) :
    {α : Type} → Nat → RegistryProgram H σ α → World H σ → World H σ → Prop
  | here {α : Type} {levels} {program : RegistryProgram H σ α} {w} :
      Visits handling levels program w w
  | onward {α : Type} {levels request} {next : Request.Answer request → RegistryProgram H σ α}
      {w answer v w'} (hserve : serve (dispatch handling levels) request w = some (answer, v))
      (hnext : Visits handling levels (next answer) v w') :
      Visits handling levels (.ask request next) w w'
  | within {α : Type} {levels} {cx : Context} {next : Outcome → RegistryProgram H σ α}
      {w l rest reaped w₀ v w'} (turns : List (Turn H σ))
      (hreap : onRegistry (fun r ↦ r.reap cx.key) w =
        some (some (turns.map Turn.listener ++ l :: rest, reaped), w₀))
      (hturns : Turns (call handling levels cx) w₀ turns v)
      (hactive : v.registry.isActive l.id = true)
      (hcall : Visits handling levels (handling l.handler cx) v w') :
      Visits handling (levels + 1) (.ask (.dispatch cx) next) w w'

/-- A run ends in a world that the program comes through. -/
theorem visits_of_run {handling : Handling H σ} {levels : Nat} {program : RegistryProgram H σ α}
    {a : α} {w w' : World H σ}
    (h : program.run (serve (dispatch handling levels)) w = some (a, w')) :
    Visits handling levels program w w' := by
  induction program generalizing w with
  | finish result =>
    obtain ⟨_, rfl⟩ := pure_eq_some.1 h
    exact .here
  | ask request next ih =>
    obtain ⟨answer, v, hserve, hrest⟩ := bind_eq_some.1 h
    exact .onward hserve (ih answer hrest)

/-! ## What follows an evolution -/

/-- A relation between a world and what becomes of it while programs use the registry. -/
structure Evolution (R : World H σ → World H σ → Prop) : Prop where
  refl : ∀ w, R w w
  trans : ∀ {u v w}, R u v → R v w → R u w
  operate : ∀ w registry, (∀ {S : Registry H → Registry H → Prop}, Registry.Evolution S →
    S w.registry registry) → R w { w with registry }
  update : ∀ w host, R w { w with host }
  tell : ∀ w effects, Effect.commands effects = [] →
    R w { w with effects := w.effects ++ effects }

/-- A computation takes the world only to where the relation leads. -/
def Follows (R : World H σ → World H σ → Prop) (x : WorldM H σ α) : Prop :=
  ∀ w a w', x w = some (a, w') → R w w'

/-- A computation takes the registry only to where the relation leads. -/
def Keeps (R : Registry H → Registry H → Prop) (x : WorldM H σ α) : Prop :=
  ∀ w a w', x w = some (a, w') → R w.registry w'.registry

namespace Evolution

variable {R : World H σ → World H σ → Prop} (hR : Evolution R)

include hR

theorem follows_pure (a : α) : Follows R (pure a : WorldM H σ α) := by
  intro w b w' h
  obtain ⟨_, rfl⟩ := pure_eq_some.1 h
  exact hR.refl w

theorem follows_bind {x : WorldM H σ α} {f : α → WorldM H σ β} (hx : Follows R x)
    (hf : ∀ a, Follows R (f a)) : Follows R (x >>= f) := by
  intro w b w' h
  obtain ⟨a, v, hv, hw'⟩ := bind_eq_some.1 h
  exact hR.trans (hx _ _ _ hv) (hf a _ _ _ hw')

theorem follows_onRegistry {operation : Registry H → α × Registry H}
    (h : ∀ {S : Registry H → Registry H → Prop}, Registry.Evolution S →
      ∀ r, S r (operation r).2) : Follows R (onRegistry operation : WorldM H σ α) := by
  intro w a w' hw'
  obtain ⟨_, rfl⟩ := onRegistry_eq_some.1 hw'
  exact hR.operate w _ fun hS ↦ h hS w.registry

theorem follows_perform {x : Effectful α} (h : Effect.commands x.notes = []) :
    Follows R (perform x : WorldM H σ α) := by
  intro w a w' hw'
  obtain ⟨_, rfl⟩ := perform_eq_some.1 hw'
  exact hR.tell w _ h

theorem follows_report (level message fields) :
    Follows R (report level message fields : WorldM H σ Unit) :=
  hR.follows_perform rfl

theorem follows_reportEnding (l : Listener H) (ending : Ending) :
    Follows R (reportEnding l ending : WorldM H σ Unit) := by
  cases ending with
  | done => exact hR.follows_pure ()
  | failed fault => exact hR.follows_report _ _ _
  | panicked message => exact hR.follows_report _ _ _

theorem follows_serve {deliver : Context → WorldM H σ Outcome} (h : ∀ cx, Follows R (deliver cx))
    (request : Request H σ) : Follows R (serve deliver request) := by
  cases request with
  | update change =>
    intro w a w' hw'
    obtain ⟨_, rfl⟩ := Prod.mk.inj (Option.some.inj hw')
    exact hR.update w _
  | note text => exact hR.follows_perform rfl
  | reply cx message =>
    apply hR.follows_perform
    unfold Context.reply
    split <;> rfl
  | register key handler =>
    refine hR.follows_bind (hR.follows_onRegistry fun hS r ↦ hS.register r key handler) fun n ↦ ?_
    exact hR.follows_bind (hR.follows_report _ _ _) fun _ ↦ hR.follows_pure n
  | unregister n =>
    refine hR.follows_bind (hR.follows_onRegistry fun hS r ↦ hS.unregister r n) fun found ↦ ?_
    cases found with
    | none => exact hR.follows_pure ()
    | some key => exact hR.follows_report _ _ _
  | unregisterAll key =>
    refine hR.follows_bind (hR.follows_onRegistry fun hS r ↦ hS.unregisterAll r key) fun found ↦ ?_
    cases found with
    | none => exact hR.follows_pure 0
    | some removed =>
      exact hR.follows_bind (hR.follows_report _ _ _) fun _ ↦ hR.follows_pure removed
  | clear =>
    refine hR.follows_bind (hR.follows_onRegistry fun hS r ↦ hS.clear r) fun removed ↦ ?_
    exact hR.follows_bind (hR.follows_report _ _ _) fun _ ↦ hR.follows_pure removed
  | count key =>
    intro w a w' hw'
    obtain ⟨_, rfl⟩ := Prod.mk.inj (Option.some.inj hw')
    exact hR.refl w
  | dispatch cx => exact h cx

theorem follows_run {service : (request : Request H σ) → WorldM H σ request.Answer}
    (h : ∀ request, Follows R (service request)) (program : RegistryProgram H σ α) :
    Follows R (program.run service) := by
  induction program with
  | finish result => exact hR.follows_pure result
  | ask request next ih => exact hR.follows_bind (h request) ih

theorem turns {call : Listener H → WorldM H σ Ending} (h : ∀ l, Follows R (call l))
    {w w' : World H σ} {turns : List (Turn H σ)} (hturns : Turns call w turns w') : R w w' := by
  induction hturns with
  | nil => exact hR.refl _
  | called _ hcall hreport _ ih =>
    exact hR.trans (h _ _ _ _ hcall) (hR.trans (hR.follows_reportEnding _ _ _ _ _ hreport) ih)
  | passed _ _ ih => exact ih

theorem follows_deliverTo {call : Listener H → WorldM H σ Ending} (h : ∀ l, Follows R (call l))
    (key : Key) : Follows R (deliverTo call key) := by
  refine hR.follows_bind (hR.follows_onRegistry fun hS r ↦ hS.reap r key) fun found ↦ ?_
  cases found with
  | none => exact hR.follows_bind (hR.follows_report _ _ _) fun _ ↦ hR.follows_pure _
  | some found =>
    refine hR.follows_bind ?_ fun endings ↦
      hR.follows_bind (hR.follows_report _ _ _) fun _ ↦ hR.follows_pure _
    intro w endings w' hw'
    obtain ⟨turns, hturns, _⟩ := deliver_eq_some.1 hw'
    exact hR.turns h hturns

theorem follows_dispatch (handling : Handling H σ) (levels : Nat) (cx : Context) :
    Follows R (dispatch handling levels cx) := by
  induction levels generalizing cx with
  | zero =>
    intro w a w' hw'
    exact nomatch hw'
  | succ levels ih =>
    exact hR.follows_deliverTo (fun _ ↦ hR.follows_run (hR.follows_serve ih) _) cx.key

theorem follows_call (handling : Handling H σ) (levels : Nat) (cx : Context) (l : Listener H) :
    Follows R (call handling levels cx l) :=
  hR.follows_run (hR.follows_serve (hR.follows_dispatch handling levels)) _

/-- An evolution leads to every world that a program comes through. -/
theorem visits {handling : Handling H σ} {levels : Nat} {program : RegistryProgram H σ α}
    {w w' : World H σ} (h : Visits handling levels program w w') : R w w' := by
  induction h with
  | here => exact hR.refl _
  | onward hserve _ ih =>
    exact hR.trans (hR.follows_serve (hR.follows_dispatch _ _) _ _ _ _ hserve) ih
  | within _ hreap hturns _ _ ih =>
    -- Before the call come the sweep and the turns of the listeners in front.
    have hstart := hR.follows_onRegistry (fun hS r ↦ hS.reap r _) _ _ _ hreap
    exact hR.trans hstart (hR.trans (hR.turns (hR.follows_call _ _ _) hturns) ih)

end Evolution

end World

namespace Registry.Evolution

open World

variable {H σ α : Type} {R : Registry H → Registry H → Prop} (hR : Evolution R)

include hR

/-- What a program does beside the registry does not matter. -/
theorem world : World.Evolution fun w w' : World H σ ↦ R w.registry w'.registry where
  refl _ := hR.refl _
  trans := hR.trans
  operate _ _ h := h hR
  update _ _ := hR.refl _
  tell _ _ _ := hR.refl _

theorem keeps_perform (x : Effectful α) : Keeps R (perform x : WorldM H σ α) := by
  intro w a w' h
  obtain ⟨_, rfl⟩ := perform_eq_some.1 h
  exact hR.refl _

theorem keeps_serve (handling : Handling H σ) (levels : Nat) (request : Request H σ) :
    Keeps R (serve (dispatch handling levels) request) :=
  hR.world.follows_serve (hR.world.follows_dispatch handling levels) request

theorem keeps_dispatch (handling : Handling H σ) (levels : Nat) (cx : Context) :
    Keeps R (dispatch handling levels cx) :=
  hR.world.follows_dispatch handling levels cx

theorem visits {handling : Handling H σ} {levels : Nat} {program : RegistryProgram H σ α}
    {w w' : World H σ} (h : Visits handling levels program w w') :
    R w.registry w'.registry :=
  hR.world.visits h

end Registry.Evolution

end DialogKit
