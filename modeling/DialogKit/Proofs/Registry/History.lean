import DialogKit.Proofs.Registry.Runs

/-!
# Histories of a registry

A history lists what happens to a registry on the way: the operations, in the order in which they
are made, and the calls of listeners among them. The history of a program is read off its run,
deliveries and the handlers that they call included; it goes as far as the run does. To replay it
leads to the registry with which the run ends, and every world that the program comes through lies
at some place of it.
-/

namespace DialogKit

/-- What happens to a registry. -/
inductive Act (H : Type) where
  | register (key : Key) (handler : H)
  | unregister (id : Nat)
  | unregisterAll (key : Key)
  | clear
  /-- A delivery takes the inactive listeners out of the list of its key. -/
  | sweep (key : Key)
  /-- A delivery calls a listener. -/
  | call (id : Nat)
  deriving DecidableEq

namespace Registry

variable {H : Type}

/-- The registry after an act. -/
def apply (r : Registry H) : Act H → Registry H
  | .register key handler => (r.register key handler).2
  | .unregister id => (r.unregister id).2
  | .unregisterAll key => (r.unregisterAll key).2
  | .clear => r.clear.2
  | .sweep key => (r.reap key).2
  | .call _ => r

/-- The registry after a history. -/
def replay (r : Registry H) (acts : List (Act H)) : Registry H :=
  acts.foldl apply r

@[simp] theorem replay_nil (r : Registry H) : r.replay [] = r := rfl

@[simp] theorem replay_cons (r : Registry H) (act : Act H) (acts : List (Act H)) :
    r.replay (act :: acts) = (r.apply act).replay acts := rfl

@[simp] theorem replay_append (r : Registry H) (acts acts' : List (Act H)) :
    r.replay (acts ++ acts') = (r.replay acts).replay acts' :=
  List.foldl_append

theorem Evolution.apply {R : Registry H → Registry H → Prop} (hR : Evolution R) (r : Registry H)
    (act : Act H) : R r (r.apply act) := by
  cases act with
  | register key handler => exact hR.register r key handler
  | unregister id => exact hR.unregister r id
  | unregisterAll key => exact hR.unregisterAll r key
  | clear => exact hR.clear r
  | sweep key => exact hR.reap r key
  | call id => exact hR.refl r

theorem Evolution.replay {R : Registry H → Registry H → Prop} (hR : Evolution R) (r : Registry H)
    (acts : List (Act H)) : R r (r.replay acts) := by
  induction acts generalizing r with
  | nil => exact hR.refl r
  | cons act acts ih => exact hR.trans (hR.apply r act) (ih _)

/-- Each listener that is called in a history is active then. -/
inductive CallsActive : Registry H → List (Act H) → Prop where
  | nil {r} : CallsActive r []
  | cons {r act acts} (hcall : ∀ id, act = .call id → r.isActive id = true)
      (hrest : CallsActive (r.apply act) acts) : CallsActive r (act :: acts)

theorem CallsActive.append {r : Registry H} {acts acts' : List (Act H)} (h : CallsActive r acts)
    (h' : CallsActive (r.replay acts) acts') : CallsActive r (acts ++ acts') := by
  induction h with
  | nil => exact h'
  | cons hcall _ ih => exact .cons hcall (ih h')

theorem CallsActive.right {r : Registry H} {acts acts' : List (Act H)}
    (h : CallsActive r (acts ++ acts')) : CallsActive (r.replay acts) acts' := by
  induction acts generalizing r with
  | nil => exact h
  | cons act acts ih =>
    cases h with
    | cons _ hrest => exact ih hrest

end Registry

namespace World

variable {H σ α β : Type}

/-! ## Records -/

/-- What is recorded of a computation and then of the one that goes on with its result. -/
def thenActs (x : WorldM H σ α) (acts : World H σ → List (Act H))
    (rest : α → World H σ → List (Act H)) (w : World H σ) : List (Act H) :=
  acts w ++ match x w with
    | none => []
    | some (a, v) => rest a v

/-- The history of a request; `delivery` gives those of deliveries. -/
def requestActs (delivery : Context → World H σ → List (Act H)) :
    Request H σ → World H σ → List (Act H)
  | .register key handler, _ => [.register key handler]
  | .unregister id, _ => [.unregister id]
  | .unregisterAll key, _ => [.unregisterAll key]
  | .clear, _ => [.clear]
  | .dispatch cx, w => delivery cx w
  | .update _, _ | .note _, _ | .reply _ _, _ | .count _, _ => []

/-- The history of a program. -/
def programActs (service : (request : Request H σ) → WorldM H σ request.Answer)
    (acts : Request H σ → World H σ → List (Act H)) :
    RegistryProgram H σ α → World H σ → List (Act H)
  | .finish _, _ => []
  | .ask request next, w =>
      thenActs (service request) (acts request)
        (fun answer ↦ programActs service acts (next answer)) w

/-- The history of the turns that listeners get. -/
def turnActs (call : Listener H → WorldM H σ Ending)
    (acts : Listener H → World H σ → List (Act H)) :
    List (Listener H) → World H σ → List (Act H)
  | [], _ => []
  | l :: rest, w =>
      if w.registry.isActive l.id then
        .call l.id :: thenActs (call l) (acts l)
          (fun ending ↦
            thenActs (reportEnding l ending) (fun _ ↦ []) fun _ ↦ turnActs call acts rest)
          w
      else turnActs call acts rest w

/-- The history of a delivery. -/
def deliveryActs (handling : Handling H σ) : Nat → Context → World H σ → List (Act H)
  | 0, _, _ => []
  | levels + 1, cx, w =>
      thenActs (onRegistry fun r ↦ r.reap cx.key) (fun _ ↦ [.sweep cx.key])
        (fun
          | none, _ => []
          | some (live, _), v =>
              turnActs (call handling levels cx)
                (fun l ↦ programActs (serve (dispatch handling levels))
                  (requestActs (deliveryActs handling levels)) (handling l.handler cx))
                live v)
        w

/-- The history of a program with the given handlers. -/
def history (handling : Handling H σ) (levels : Nat) (program : RegistryProgram H σ α) :
    World H σ → List (Act H) :=
  programActs (serve (dispatch handling levels)) (requestActs (deliveryActs handling levels))
    program

/-- From the world `w` on, the acts are a history of the computation: replayed, they lead to the
registry with which it ends, and they call only active listeners. -/
structure Records (x : WorldM H σ α) (acts : List (Act H)) (w : World H σ) : Prop where
  leads : ∀ a w', x w = some (a, w') → w'.registry = w.registry.replay acts
  calls : w.registry.CallsActive acts

theorem Records.of_eq {x y : WorldM H σ α} {acts : List (Act H)} {w : World H σ}
    (hy : Records y acts w) (h : x w = y w) : Records x acts w where
  leads a w' hx := hy.leads a w' (h ▸ hx)
  calls := hy.calls

theorem Records.called {x : WorldM H σ α} {acts : List (Act H)} {w : World H σ} {id : Nat}
    (hactive : w.registry.isActive id = true) (hx : Records x acts w) :
    Records x (.call id :: acts) w where
  leads := hx.leads
  calls := .cons (fun _ hid ↦ Act.call.inj hid ▸ hactive) hx.calls

/-- A computation that leaves the registry alone has no history. -/
theorem records_nil {x : WorldM H σ α} {w : World H σ}
    (h : ∀ a w', x w = some (a, w') → w'.registry = w.registry) : Records x [] w :=
  ⟨h, .nil⟩

theorem records_pure (a : α) (w : World H σ) : Records (pure a : WorldM H σ α) [] w := by
  refine records_nil fun b w' h ↦ ?_
  obtain ⟨_, rfl⟩ := pure_eq_some.1 h
  rfl

theorem records_perform (x : Effectful α) (w : World H σ) :
    Records (perform x : WorldM H σ α) [] w := by
  refine records_nil fun a w' h ↦ ?_
  obtain ⟨_, rfl⟩ := perform_eq_some.1 h
  rfl

theorem records_onRegistry {operation : Registry H → α × Registry H} {act : Act H} {w : World H σ}
    (h : (operation w.registry).2 = w.registry.apply act) (hcall : ∀ id, act ≠ .call id) :
    Records (onRegistry operation) [act] w where
  leads a w' hw' := by
    obtain ⟨_, rfl⟩ := onRegistry_eq_some.1 hw'
    exact h
  calls := .cons (fun id hid ↦ absurd hid (hcall id)) .nil

theorem Records.bind {x : WorldM H σ α} {y : α → WorldM H σ β} {acts : World H σ → List (Act H)}
    {rest : α → World H σ → List (Act H)} {w : World H σ} (hx : Records x (acts w) w)
    (hy : ∀ a v, x w = some (a, v) → Records (y a) (rest a v) v) :
    Records (x >>= y) (thenActs x acts rest w) w where
  leads b w' h := by
    obtain ⟨a, v, hv, hw'⟩ := bind_eq_some.1 h
    rw [thenActs, hv, Registry.replay_append, ← hx.leads a v hv]
    exact (hy a v hv).leads b w' hw'
  calls := by
    refine hx.calls.append ?_
    cases hv : x w with
    | none => exact .nil
    | some result =>
      rw [← hx.leads result.1 result.2 hv]
      exact (hy result.1 result.2 hv).calls

/-- What follows a computation may leave the registry alone. -/
theorem Records.andThen {x : WorldM H σ α} {y : α → WorldM H σ β} {acts : List (Act H)}
    {w : World H σ} (hx : Records x acts w) (hy : ∀ a v, Records (y a) [] v) :
    Records (x >>= y) acts w where
  leads b w' h := by
    obtain ⟨a, v, hv, hw'⟩ := bind_eq_some.1 h
    exact ((hy a v).leads b w' hw').trans (hx.leads a v hv)
  calls := hx.calls

theorem records_reportEnding (l : Listener H) (ending : Ending) (w : World H σ) :
    Records (reportEnding l ending : WorldM H σ Unit) [] w := by
  cases ending with
  | done => exact records_pure () w
  | failed fault => exact records_perform _ w
  | panicked message => exact records_perform _ w

section

variable {deliver : Context → WorldM H σ Outcome} {delivery : Context → World H σ → List (Act H)}

theorem records_serve (h : ∀ cx w, Records (deliver cx) (delivery cx w) w) (request : Request H σ)
    (w : World H σ) : Records (serve deliver request) (requestActs delivery request w) w := by
  cases request with
  | update change => exact records_nil fun a w' hw' ↦ by cases hw'; rfl
  | note text => exact records_perform _ w
  | reply cx message => exact records_perform _ w
  | register key handler =>
    refine (records_onRegistry rfl (by simp)).andThen fun n v ↦ ?_
    exact (records_perform _ v).andThen fun _ ↦ records_pure n
  | unregister id =>
    refine (records_onRegistry rfl (by simp)).andThen fun found v ↦ ?_
    cases found with
    | none => exact records_pure () v
    | some key => exact records_perform _ v
  | unregisterAll key =>
    refine (records_onRegistry rfl (by simp)).andThen fun found v ↦ ?_
    cases found with
    | none => exact records_pure 0 v
    | some removed => exact (records_perform _ v).andThen fun _ ↦ records_pure removed
  | clear =>
    refine (records_onRegistry rfl (by simp)).andThen fun removed v ↦ ?_
    exact (records_perform _ v).andThen fun _ ↦ records_pure removed
  | count key => exact records_nil fun a w' hw' ↦ by cases hw'; rfl
  | dispatch cx => exact h cx w

end

theorem records_run {service : (request : Request H σ) → WorldM H σ request.Answer}
    {acts : Request H σ → World H σ → List (Act H)}
    (h : ∀ request w, Records (service request) (acts request w) w)
    (program : RegistryProgram H σ α) (w : World H σ) :
    Records (program.run service) (programActs service acts program w) w := by
  induction program generalizing w with
  | finish result => exact records_pure result w
  | ask request next ih => exact (h request w).bind fun answer v _ ↦ ih answer v

theorem records_deliver {call : Listener H → WorldM H σ Ending}
    {acts : Listener H → World H σ → List (Act H)}
    (h : ∀ l w, Records (call l) (acts l w) w) (ls : List (Listener H)) (w : World H σ) :
    Records (deliver call ls) (turnActs call acts ls w) w := by
  induction ls generalizing w with
  | nil => exact records_pure [] w
  | cons l rest ih =>
    unfold turnActs
    cases hactive : w.registry.isActive l.id with
    | false => exact (ih w).of_eq (deliver_cons_of_inactive hactive)
    | true =>
      refine (Records.called hactive ?_).of_eq (deliver_cons_of_active hactive)
      refine (h l w).bind fun ending v _ ↦ (records_reportEnding l ending v).bind fun _ v' _ ↦ ?_
      exact (ih v').andThen fun endings ↦ records_pure _

theorem records_dispatch (handling : Handling H σ) (levels : Nat) (cx : Context) (w : World H σ) :
    Records (dispatch handling levels cx) (deliveryActs handling levels cx w) w := by
  induction levels generalizing cx w with
  | zero => exact records_nil fun _ _ h ↦ nomatch h
  | succ levels ih =>
    refine (records_onRegistry rfl (by simp)).bind fun found v _ ↦ ?_
    cases found with
    | none => exact (records_perform _ v).andThen fun _ ↦ records_pure _
    | some found =>
      refine (records_deliver (fun l ↦ ?_) found.1 v).andThen fun endings v' ↦ ?_
      · exact records_run (records_serve ih) _
      · exact (records_perform _ v').andThen fun _ ↦ records_pure _

theorem records_request (handling : Handling H σ) (levels : Nat) (request : Request H σ)
    (w : World H σ) :
    Records (serve (dispatch handling levels) request)
      (requestActs (deliveryActs handling levels) request w) w :=
  records_serve (records_dispatch handling levels) request w

/-- The history of a program leads to the registry with which it ends. -/
theorem records_history (handling : Handling H σ) (levels : Nat) (program : RegistryProgram H σ α)
    (w : World H σ) :
    Records (program.run (serve (dispatch handling levels))) (history handling levels program w)
      w :=
  records_run (records_request handling levels) program w

theorem records_call (handling : Handling H σ) (levels : Nat) (cx : Context) (l : Listener H)
    (w : World H σ) :
    Records (call handling levels cx l) (history handling levels (handling l.handler cx) w) w :=
  records_history handling levels (handling l.handler cx) w

/-! ## Places in a history -/

theorem thenActs_of_eq_some {x : WorldM H σ α} {acts : World H σ → List (Act H)}
    {rest : α → World H σ → List (Act H)} {w v : World H σ} {a : α} (h : x w = some (a, v)) :
    thenActs x acts rest w = acts w ++ rest a v := by
  rw [thenActs, h]

section

variable {call : Listener H → WorldM H σ Ending} {acts : Listener H → World H σ → List (Act H)}
  {w v : World H σ}

theorem exists_turnActs_eq {l : Listener H} (h : w.registry.isActive l.id = true)
    (call : Listener H → WorldM H σ Ending) (acts : Listener H → World H σ → List (Act H))
    (rest : List (Listener H)) :
    ∃ later, turnActs call acts (l :: rest) w = .call l.id :: (acts l w ++ later) := by
  rw [turnActs, if_pos h, thenActs]
  exact ⟨_, rfl⟩

/-- The listeners that have had their turns come first in the history, and lead to where the next
one gets its turn. -/
theorem exists_front (h : ∀ l w, Records (call l) (acts l w) w) {turns : List (Turn H σ)}
    (hturns : Turns call w turns v) :
    ∃ front, v.registry = w.registry.replay front ∧ ∀ ls,
      turnActs call acts (turns.map Turn.listener ++ ls) w = front ++ turnActs call acts ls v := by
  induction hturns with
  | nil => exact ⟨[], rfl, fun _ ↦ rfl⟩
  | @called l w ending v v' turns w' hactive hcall hreport _ ih =>
    obtain ⟨front, hw', hfront⟩ := ih
    refine ⟨.call l.id :: acts l w ++ front, ?_, fun ls ↦ ?_⟩
    · rw [hw', (records_reportEnding l ending v).leads _ _ hreport, (h l w).leads _ _ hcall]
      simp [Registry.apply]
    · simp [turnActs, hactive, thenActs_of_eq_some hcall, thenActs_of_eq_some hreport, hfront]
  | passed hinactive _ ih =>
    simpa [turnActs, hinactive] using ih

end

section

variable {handling : Handling H σ} {levels : Nat} {w v : World H σ}

theorem history_ask {request : Request H σ} {answer : request.Answer}
    {next : request.Answer → RegistryProgram H σ α}
    (h : serve (dispatch handling levels) request w = some (answer, v)) :
    history handling levels (.ask request next) w =
      requestActs (deliveryActs handling levels) request w ++
        history handling levels (next answer) v :=
  thenActs_of_eq_some h

theorem deliveryActs_of_reap {cx : Context} {live : List (Listener H)} {reaped : Nat}
    (h : onRegistry (fun r ↦ r.reap cx.key) w = some (some (live, reaped), v)) :
    deliveryActs handling (levels + 1) cx w = .sweep cx.key ::
      turnActs (call handling levels cx) (fun l ↦ history handling levels (handling l.handler cx))
        live v :=
  thenActs_of_eq_some h

theorem exists_history_eq (handling : Handling H σ) (levels : Nat) (cx : Context)
    (next : Outcome → RegistryProgram H σ α) (w : World H σ) :
    ∃ later, history handling levels (.ask (.dispatch cx) next) w =
      deliveryActs handling levels cx w ++ later :=
  ⟨_, rfl⟩

end

/-- Every world that a program comes through lies at some place of its history. -/
theorem history_of_visits {handling : Handling H σ} {levels : Nat}
    {program : RegistryProgram H σ α} {w w' : World H σ}
    (h : Visits handling levels program w w') :
    ∃ before after, history handling levels program w = before ++ after ∧
      w'.registry = w.registry.replay before := by
  induction h with
  | here => exact ⟨[], _, rfl, rfl⟩
  | @onward α levels request next w answer v w' hserve _ ih =>
    obtain ⟨before, after, hacts, hw'⟩ := ih
    refine ⟨requestActs (deliveryActs handling levels) request w ++ before, after, ?_, ?_⟩
    · rw [history_ask hserve, hacts, List.append_assoc]
    · rw [hw', (records_request handling levels request w).leads _ _ hserve,
        Registry.replay_append]
  | @within α levels cx next w l rest reaped w₀ v w' turns hreap hturns hactive _ ih =>
    obtain ⟨before, after, hacts, hw'⟩ := ih
    -- The delivery sweeps, gives the listeners in front their turns, and then calls this one.
    obtain ⟨later, hlater⟩ := exists_history_eq handling (levels + 1) cx next w
    have hsweep : w₀.registry = w.registry.apply (.sweep cx.key) := by
      obtain ⟨_, rfl⟩ := onRegistry_eq_some.1 hreap
      rfl
    obtain ⟨front, hv, hfront⟩ := exists_front (records_call handling levels cx) hturns
    obtain ⟨rest', hcall⟩ := exists_turnActs_eq hactive (call handling levels cx)
      (fun l ↦ history handling levels (handling l.handler cx)) rest
    refine ⟨.sweep cx.key :: front ++ .call l.id :: before, after ++ rest' ++ later, ?_, ?_⟩
    · rw [hlater, deliveryActs_of_reap hreap, hfront, hcall, hacts]
      simp
    · rw [hw', hv, hsweep]
      simp [Registry.apply]

end World

end DialogKit
