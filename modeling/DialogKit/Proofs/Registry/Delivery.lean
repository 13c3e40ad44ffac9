import DialogKit.Proofs.Registry.Listing
import Mathlib.Data.List.Count

/-!
# What a delivery does

A delivery gives each listener that its key has at the start one turn, in the order of registration.
A listener is called in its turn if and only if it is active then, whatever the handlers before it
have done and however they have ended, and the outcome counts how the calls ended.

The bound on the levels of delivery only decides whether there is a result, never which one.
-/

namespace DialogKit

namespace World

variable {H σ α β : Type}

/-! ## The bound on levels -/

/-- A computation has every result of another one. -/
def Extends (x y : WorldM H σ α) : Prop :=
  ∀ w a w', x w = some (a, w') → y w = some (a, w')

theorem extends_refl (x : WorldM H σ α) : Extends x x :=
  fun _ _ _ ↦ id

theorem extends_bind {x y : WorldM H σ α} {f g : α → WorldM H σ β} (hxy : Extends x y)
    (hfg : ∀ a, Extends (f a) (g a)) : Extends (x >>= f) (y >>= g) := by
  intro w b w' h
  obtain ⟨a, v, hv, hw'⟩ := bind_eq_some.1 h
  exact bind_eq_some.2 ⟨a, v, hxy w a v hv, hfg a v b w' hw'⟩

theorem extends_serve {deliver deliver' : Context → WorldM H σ Outcome}
    (h : ∀ cx, Extends (deliver cx) (deliver' cx)) (request : Request H σ) :
    Extends (serve deliver request) (serve deliver' request) := by
  cases request with
  | dispatch cx => exact h cx
  | _ => exact extends_refl _

theorem extends_run {service service' : (request : Request H σ) → WorldM H σ request.Answer}
    (h : ∀ request, Extends (service request) (service' request))
    (program : RegistryProgram H σ α) : Extends (program.run service) (program.run service') := by
  induction program with
  | finish result => exact extends_refl _
  | ask request next ih => exact extends_bind (h request) ih

theorem Turns.mono {call call' : Listener H → WorldM H σ Ending}
    (h : ∀ l, Extends (call l) (call' l)) {turns : List (Turn H σ)} {w w' : World H σ}
    (hturns : Turns call w turns w') : Turns call' w turns w' := by
  induction hturns with
  | nil => exact .nil
  | called hactive hcall hreport _ ih => exact .called hactive (h _ _ _ _ hcall) hreport ih
  | passed hinactive _ ih => exact .passed hinactive ih

theorem extends_deliverTo {call call' : Listener H → WorldM H σ Ending}
    (h : ∀ l, Extends (call l) (call' l)) (key : Key) :
    Extends (deliverTo call key) (deliverTo call' key) := by
  refine extends_bind (extends_refl _) fun found ↦ ?_
  cases found with
  | none => exact extends_refl _
  | some found =>
    refine extends_bind (fun w endings w' hw' ↦ ?_) fun _ ↦ extends_refl _
    obtain ⟨turns, hturns, hls⟩ := deliver_eq_some.1 hw'
    exact deliver_eq_some.2 ⟨turns, hturns.mono h, hls⟩

theorem extends_dispatch_succ (handling : Handling H σ) (levels : Nat) (cx : Context) :
    Extends (dispatch handling levels cx) (dispatch handling (levels + 1) cx) := by
  induction levels generalizing cx with
  -- Without levels there is no result to keep.
  | zero => exact fun _ _ _ h ↦ nomatch h
  | succ levels ih =>
    exact extends_deliverTo (fun l ↦ extends_run (extends_serve ih) (handling l.handler cx)) cx.key

/-- With more levels there is the same result. -/
theorem extends_dispatch_of_le (handling : Handling H σ) {levels levels' : Nat}
    (h : levels ≤ levels') (cx : Context) :
    Extends (dispatch handling levels cx) (dispatch handling levels' cx) := by
  induction h with
  | refl => exact extends_refl _
  | step _ ih =>
    exact fun w a w' hw' ↦ extends_dispatch_succ handling _ cx w a w' (ih w a w' hw')

/-- However deep deliveries may nest, a delivery that ends comes to the same. -/
theorem dispatch_eq_of_eq_some {handling : Handling H σ} {levels levels' : Nat} {cx : Context}
    {w : World H σ} {x y : Outcome × World H σ} (hx : dispatch handling levels cx w = some x)
    (hy : dispatch handling levels' cx w = some y) : x = y := by
  rcases Nat.le_total levels levels' with hle | hle
  · exact Option.some.inj ((extends_dispatch_of_le handling hle cx w _ _ hx).symm.trans hy)
  · exact Option.some.inj (hx.symm.trans (extends_dispatch_of_le handling hle cx w _ _ hy))

/-! ## The calls of a delivery -/

namespace Turns

variable {call : Listener H → WorldM H σ Ending} {w w' : World H σ} {turns : List (Turn H σ)}

theorem isSome_ending_iff (h : Turns call w turns w') {turn : Turn H σ} (hturn : turn ∈ turns) :
    turn.ending.isSome ↔ turn.world.registry.isActive turn.listener.id := by
  induction h with
  | nil => simp at hturn
  | called hactive _ _ _ ih =>
    rcases List.mem_cons.1 hturn with rfl | hrest
    · simp [hactive]
    · exact ih hrest
  | passed hinactive _ ih =>
    rcases List.mem_cons.1 hturn with rfl | hrest
    · simp [hinactive]
    · exact ih hrest

theorem exists_call_eq_some (h : Turns call w turns w') {turn : Turn H σ} (hturn : turn ∈ turns)
    {ending : Ending} (hending : turn.ending = some ending) :
    ∃ v, call turn.listener turn.world = some (ending, v) := by
  induction h with
  | nil => simp at hturn
  | called _ hcall _ _ ih =>
    rcases List.mem_cons.1 hturn with rfl | hrest
    · obtain rfl := Option.some.inj hending
      exact ⟨_, hcall⟩
    · exact ih hrest
  | passed _ _ ih =>
    rcases List.mem_cons.1 hturn with rfl | hrest
    · exact nomatch hending
    · exact ih hrest

end Turns

theorem invoked_ofEndings (turns : List (Turn H σ)) (reaped : Nat) :
    (Outcome.ofEndings (turns.filterMap Turn.ending) reaped).invoked =
      turns.countP fun turn ↦ turn.ending == some .done := by
  simp only [Outcome.ofEndings]
  rw [← List.countP_eq_length_filter, List.countP_filterMap]
  refine List.countP_congr fun turn _ ↦ ?_
  cases turn.ending <;> simp

theorem failed_ofEndings (turns : List (Turn H σ)) (reaped : Nat) :
    (Outcome.ofEndings (turns.filterMap Turn.ending) reaped).failed =
      turns.countP fun turn ↦ turn.ending.any (· != .done) := by
  simp only [Outcome.ofEndings]
  rw [← List.countP_eq_length_filter, List.countP_filterMap]
  refine List.countP_congr fun turn _ ↦ ?_
  cases turn.ending <;> simp

theorem attempted_ofEndings (turns : List (Turn H σ)) (reaped : Nat) :
    (Outcome.ofEndings (turns.filterMap Turn.ending) reaped).attempted =
      turns.countP fun turn ↦ turn.ending.isSome := by
  have hlength := List.length_eq_countP_add_countP (· == Ending.done)
    (l := turns.filterMap Turn.ending)
  have hother : (fun ending ↦ decide ¬(ending == Ending.done) = true) = (· != Ending.done) := by
    funext ending
    cases h : ending == Ending.done <;> simp [bne, h]
  rw [List.length_filterMap_eq_countP, hother] at hlength
  rw [hlength, List.countP_eq_length_filter, List.countP_eq_length_filter]
  rfl

/-- A delivery in a world that a program comes through gives each listener of the key, in order, one
turn: those that are active then are called with the action, and the outcome counts how the calls
ended. There is an outcome whenever the calls come to their ends, well or not. -/
theorem delivery_of_visits {handling : Handling H σ} {levels : Nat}
    {program : RegistryProgram H σ α} {host : σ} {effects : List Effect} {w : World H σ}
    (hvisits : Visits handling levels program ⟨Registry.empty, host, effects⟩ w)
    (levels' : Nat) (cx : Context) :
    (∀ outcome w', dispatch handling (levels' + 1) cx w = some (outcome, w') →
      ∃ turns v, Turns (call handling levels' cx) w turns v ∧
        w'.registry = v.registry ∧ w'.host = v.host ∧
        turns.map Turn.listener = w.registry.listeners cx.key ∧
        ((turns.filter fun turn ↦ turn.ending.isSome).map Turn.listener).Sublist
          (w.registry.listeners cx.key) ∧
        (turns.map fun turn ↦ turn.listener.id).Nodup ∧
        (∀ turn ∈ turns,
          turn.listener.key = cx.key ∧ (turn.listener.id, cx.key) ∈ w.registry.issued ∧
          (turn.ending.isSome ↔ turn.world.registry.isActive turn.listener.id) ∧
          ∀ ending, turn.ending = some ending →
            ∃ v, (handling turn.listener.handler cx).run (serve (dispatch handling levels'))
              turn.world = some (ending, v)) ∧
        outcome.invoked = turns.countP (fun turn ↦ turn.ending == some .done) ∧
        outcome.failed = turns.countP (fun turn ↦ turn.ending.any (· != .done)) ∧
        outcome.attempted = turns.countP (fun turn ↦ turn.ending.isSome)) ∧
    ∀ turns v, Turns (call handling levels' cx) w turns v →
      turns.map Turn.listener = w.registry.listeners cx.key →
      ∃ outcome w', dispatch handling (levels' + 1) cx w = some (outcome, w') := by
  have h := consistent_of_visits hvisits
  rw [dispatch_succ]
  refine ⟨fun outcome w' hdispatch ↦ ?_, fun turns v hturns hls ↦
    exists_deliverTo_eq_some h hturns hls⟩
  obtain ⟨turns, v, hturns, hls, rfl, hregistry, hhost⟩ := turns_of_deliverTo h hdispatch
  refine ⟨turns, v, hturns, hregistry, hhost, hls, ?_, ?_, ?_, invoked_ofEndings turns 0,
    failed_ofEndings turns 0, attempted_ofEndings turns 0⟩
  · rw [← hls]
    exact List.filter_sublist.map Turn.listener
  · have hids : (turns.map Turn.listener).map Listener.id =
        turns.map fun turn ↦ turn.listener.id := List.map_map
    rw [← hids, hls]
    exact (h.pairwise_lt cx.key).imp Nat.ne_of_lt
  · intro turn hturn
    have hl : turn.listener ∈ w.registry.listeners cx.key := hls ▸ List.mem_map_of_mem hturn
    exact ⟨h.owned cx.key turn.listener hl, h.mem_issued_of_mem hl, hturns.isSome_ending_iff hturn,
      fun _ ↦ hturns.exists_call_eq_some hturn⟩

/-- The first listener takes back itself and the second one, which is then passed over. -/
theorem delivery_of_visits_replacing :
    ∃ w, Visits replacing 1 selling ⟨Registry.empty, (), []⟩ w ∧
      ∃ outcome w', dispatch replacing 1 purchase w = some (outcome, w') ∧ outcome.failed = 1 ∧
        ∃ turns : List (Turn Bool Unit),
          turns.map Turn.listener = [⟨1, shopKey, true⟩, ⟨2, shopKey, false⟩] ∧
          turns.countP (fun turn ↦ turn.ending.isSome) = 1 := by
  obtain ⟨w, hvisits, hlisteners, hcounts⟩ :
      ∃ w, Visits replacing 1 selling ⟨Registry.empty, (), []⟩ w ∧
        w.registry.listeners shopKey = [⟨1, shopKey, true⟩, ⟨2, shopKey, false⟩] ∧
        (dispatch replacing 1 purchase w).map (fun x ↦ (x.1.failed, x.1.attempted)) =
          some (1, 1) := by
    refine ⟨_, .onward rfl (.onward rfl .here), ?_, ?_⟩
    · rfl
    · decide +kernel
  obtain ⟨⟨outcome, w'⟩, hdispatch, hpair⟩ := Option.map_eq_some_iff.1 hcounts
  obtain ⟨hfailed, hattempted⟩ := Prod.mk.inj hpair
  obtain ⟨turns, v, _, _, _, hls, _, _, _, _, _, hcalls⟩ :=
    (delivery_of_visits hvisits 0 purchase).1 outcome w' hdispatch
  exact ⟨w, hvisits, outcome, w', hdispatch, hfailed, turns, hls.trans hlisteners,
    hcalls.symm.trans hattempted⟩

end World

end DialogKit
