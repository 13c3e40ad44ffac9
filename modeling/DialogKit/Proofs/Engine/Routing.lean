import DialogKit.Engine.Perform
import DialogKit.Proofs.Compile.WellFormed
import DialogKit.Proofs.Engine.Opening
import DialogKit.Proofs.Key.Canonical
import DialogKit.Proofs.Registry.Delivery

/-!
# Where custom actions go

The key of a custom action is written in a document, compiled into a button, and reported by the
host in two parts when the button is clicked. Handlers are registered under keys written elsewhere.
All of these are the same key if their texts come to the same, and then a performed button and a
reported click are one delivery: to the same handlers in the same order, with the same outcome.
-/

namespace DialogKit

/-- What can be read as a key shows something. -/
theorem Key.shows_of_parse? {text : String} {key : Key} (h : parse? text = .ok key) :
    Text.Shows text := by
  obtain ⟨space, value, htrim, _⟩ := exists_make?_of_parse? h
  intro hempty
  have hchars := congrArg String.toList (htrim.symm.trans hempty)
  simp at hchars

namespace Compile

open CompileM

theorem ownAction_eq_custom {part : Document} {key : Key} :
    ownAction part = some (.custom key) ↔ Text.lower (part.str "type" "return") = "custom" ∧
      ∃ text, Component.shownText? part "key" = some text ∧ Key.parse? text = .ok key := by
  have hkey : ((Component.shownText? part "key").bind fun text ↦
        (Key.parse? text).toOption.map Action.custom) = some (.custom key) ↔
      ∃ text, Component.shownText? part "key" = some text ∧ Key.parse? text = .ok key := by
    rw [Option.bind_eq_some_iff]
    refine exists_congr fun text ↦ and_congr_right fun _ ↦ ?_
    cases Key.parse? text <;> simp [Except.toOption]
  unfold ownAction
  generalize Text.lower (part.str "type" "return") = kind
  split
  case h_8 => simpa using hkey
  all_goals simp_all

theorem showAction_ne_custom (catalog : Catalog) (compileTarget : String → CompileM Definition)
    (part : Document) (key : Key) :
    outcome (showAction catalog compileTarget part) ≠ .ok (some (.custom key)) := by
  by_cases h : ∃ target, Component.shownText? part "id" = some target ∧ catalog.contains target
  · obtain ⟨target, htarget, hcontains⟩ := h
    rw [outcome_showAction_of_contains htarget hcontains]
    cases outcome (compileTarget target) with
    | ok dialog => simp [shownAs]
    | error fault => cases fault <;> simp [shownAs]
  · rw [outcome_showAction_of_not_contains fun target htarget ↦
      Bool.eq_false_iff.2 fun hcontains ↦ h ⟨target, htarget, hcontains⟩]
    simp

/-- An action calls handlers exactly if its type is `custom` and its section spells their key. -/
theorem action_eq_custom {catalog : Catalog} {compileTarget : String → CompileM Definition}
    {part : Document} {key : Key} :
    outcome (action catalog compileTarget part) = .ok (some (.custom key)) ↔
      Text.lower (part.str "type" "return") = "custom" ∧
        ∃ text, part.str? "key" = some text ∧ Key.parse? text = .ok key := by
  have hshown : (∃ text, Component.shownText? part "key" = some text ∧ Key.parse? text = .ok key) ↔
      ∃ text, part.str? "key" = some text ∧ Key.parse? text = .ok key := by
    refine exists_congr fun text ↦ ?_
    rw [shownText?_eq_some, and_assoc]
    refine and_congr_right fun _ ↦ and_iff_right_of_imp fun hparse ↦ ?_
    exact Text.shows_iff.1 (Key.shows_of_parse? hparse)
  by_cases hshow : Text.lower (part.str "type" "return") = "show_dialog"
  · have hne : Text.lower (part.str "type" "return") ≠ "custom" := by simp [hshow]
    rw [action_of_show hshow]
    simp [showAction_ne_custom, hne]
  · rw [outcome_action_of_ne hshow, ← hshown, ← ownAction_eq_custom]
    simp

end Compile

namespace Engine

variable {A M H σ : Type} {b : Behaviour A M H σ} {e e' : Engine A M H σ} {levels : Nat}
  {key : Key} {payload : Payload}

theorem performAction_custom (b : Behaviour A M H σ) (levels : Nat) (key : Key) (viewer : Viewer)
    (payload : Payload) (e : Engine A M H σ) :
    performAction b levels (.custom key) (some viewer) payload e =
      (dispatch b levels key payload viewer.player e).map
        fun (outcome, e') ↦ (.ok (.dispatched outcome), e') :=
  bind_pure_apply (dispatch b levels key payload viewer.player)
    (fun outcome ↦ Except.ok (Performed.dispatched outcome)) e

theorem click_of_make? {space value : String} (h : Key.make? space value = .ok key)
    (b : Behaviour A M H σ) (levels : Nat) (payload : Payload) (player : Player)
    (e : Engine A M H σ) :
    click b levels space value payload player e =
      (dispatch b levels key payload player e).map fun (outcome, e') ↦ (.ok outcome, e') := by
  unfold click
  rw [h]
  exact bind_pure_apply (dispatch b levels key payload player) _ e

/-- What is reported of a click that is dropped. -/
def droppedClick (space value : String) (fault : Key.Fault) : Log.Event where
  level := .warn
  target := "dialog_engine::engine"
  message := "dropping custom click with invalid key"
  fields := [.quoted "namespace" space, .quoted "value" value, .bare "error" fault.message]

theorem click_of_fault {space value : String} {fault : Key.Fault}
    (h : Key.make? space value = .error fault) (b : Behaviour A M H σ) (levels : Nat)
    (payload : Payload) (player : Player) (e : Engine A M H σ) :
    click b levels space value payload player e =
      some (.error (.key fault), e.after [.log (droppedClick space value fault)]) := by
  unfold click
  rw [h]
  rfl

/-- The engine in another world. -/
def inWorldOf (e : Engine A M H σ) (world : World H σ) : Engine A M H σ :=
  { e with platform := { e.platform with world } }

theorem dispatch_eq_some {player : Player} {outcome : Outcome} :
    dispatch b levels key payload player e = some (outcome, e') ↔
      ∃ world, World.dispatch b.handling levels ⟨key, payload, player, e.replies⟩
        e.platform.world = some (outcome, world) ∧ e.inWorldOf world = e' := by
  have hdispatch : dispatch b levels key payload player e =
      (World.dispatch b.handling levels ⟨key, payload, player, e.replies⟩ e.platform.world).map
        fun (outcome, world) ↦ (outcome, e.inWorldOf world) := by
    change ((World.dispatch b.handling levels ⟨key, payload, player, e.replies⟩
      e.platform.world).map _).map _ = _
    rw [Option.map_map]
    rfl
  rw [hdispatch, Option.map_eq_some_iff]
  constructor
  · rintro ⟨⟨_, world⟩, hworld, ⟨⟩⟩
    exact ⟨world, hworld, rfl⟩
  · rintro ⟨world, hworld, rfl⟩
    exact ⟨⟨outcome, world⟩, hworld, rfl⟩

/-- The action is delivered to the listeners that are registered under its key, however the key is
spelled: each gets its turn in the order of registration, and whoever is active then is called with
the context. -/
def Delivers (handling : Handling H σ) (levels : Nat) (cx : Context) (e : Engine A M H σ)
    (outcome : Outcome) (e' : Engine A M H σ) : Prop :=
  ∃ turns v, World.Turns (World.call handling levels cx) e.platform.world turns v ∧
    (∀ text key, Key.parse? text = .ok key → key.text = cx.key.text →
      turns.map World.Turn.listener = e.registry.listeners key ∧
      (turns.map fun turn ↦ turn.listener.id) =
        Registration.activeIds e.registry.registrations key) ∧
    outcome = Outcome.ofEndings (turns.filterMap World.Turn.ending) 0 ∧
    e'.registry = v.registry ∧ e'.platform.world.host = v.host

theorem delivers_of_dispatch (h : e.registry.Consistent) {player : Player} {outcome : Outcome}
    (hdispatch : dispatch b (levels + 1) key payload player e = some (outcome, e')) :
    Delivers b.handling levels ⟨key, payload, player, e.replies⟩ e outcome e' := by
  obtain ⟨world, hworld, rfl⟩ := dispatch_eq_some.1 hdispatch
  obtain ⟨turns, v, hturns, hls, houtcome, hregistry, hhost⟩ := World.turns_of_deliverTo h hworld
  refine ⟨turns, v, hturns, fun text other _ htext ↦ ?_, houtcome, hregistry, hhost⟩
  obtain rfl : other = key := Key.text_injective htext
  have hids : (turns.map World.Turn.listener).map Listener.id =
      turns.map fun turn ↦ turn.listener.id := List.map_map
  refine ⟨hls, ?_⟩
  rw [← hids, hls, ← h.listed]
  rfl

/-- An authored key, the button that is compiled from it and the clicks that the host reports go the
same way. For every spelling of the two parts of the key, performing the button and reporting the
click are one delivery, to the listeners that are registered under any text that comes to the same
key. A click whose parts make no key, and a button without a viewer, reach no handler: whatever the
handlers do, the answer is the same fault, and nothing changes but the log. -/
theorem routes_alike {handling : Handling H σ} {α : Type} {program : RegistryProgram H σ α}
    {host : σ} {effects : List Effect} {world : World H σ} {levels : Nat} {e : Engine A M H σ}
    (hvisits : World.Visits handling levels program ⟨Registry.empty, host, effects⟩ world)
    (hreached : e.registry = world.registry) {catalog : Catalog}
    {compileTarget : String → CompileM Definition} {part : Document} {key : Key}
    (haction : CompileM.outcome (Compile.action catalog compileTarget part) =
      .ok (some (.custom key))) :
    (∃ text, part.str? "key" = some text ∧ Key.parse? text = .ok key) ∧
    Key.make? key.space key.value = .ok key ∧
    (∀ (b : Behaviour A M H σ) levels payload (viewer : Viewer) space value,
      Key.make? space value = .ok key →
      performAction b levels (.custom key) (some viewer) payload e =
        (dispatch b levels key payload viewer.player e).map
          (fun (outcome, e') ↦ (.ok (.dispatched outcome), e')) ∧
      click b levels space value payload viewer.player e =
        (dispatch b levels key payload viewer.player e).map
          (fun (outcome, e') ↦ (.ok outcome, e'))) ∧
    (∀ (b : Behaviour A M H σ) levels payload player outcome e',
      dispatch b (levels + 1) key payload player e = some (outcome, e') →
      Delivers b.handling levels ⟨key, payload, player, e.replies⟩ e outcome e') ∧
    (∀ (b : Behaviour A M H σ) levels payload player space value fault,
      Key.make? space value = .error fault →
      let e' := e.after [.log (droppedClick space value fault)]
      click b levels space value payload player e = some (.error (.key fault), e') ∧
        e'.registry = e.registry ∧ e'.platform.world.host = e.platform.world.host) ∧
    ∀ (b : Behaviour A M H σ) levels payload,
      performAction b levels (.custom key) none payload e =
        some (.error (.command (.noPlayer key.text)), e) := by
  have hconsistent : e.registry.Consistent := by
    rw [hreached]
    exact World.consistent_of_visits hvisits
  refine ⟨(Compile.action_eq_custom.1 haction).2, Key.make?_parts key, ?_, ?_, ?_, ?_⟩
  · intro b levels payload viewer space value hmake
    exact ⟨performAction_custom b levels key viewer payload e,
      click_of_make? hmake b levels payload viewer.player e⟩
  · intro b levels payload player outcome e' hdispatch
    exact delivers_of_dispatch hconsistent hdispatch
  · intro b levels payload player space value fault hfault
    exact ⟨click_of_fault hfault b levels payload player e, rfl, rfl⟩
  · intro b levels payload
    rfl

/-- The key of the shop, as a document may spell it. -/
def buyAction : Document :=
  ⟨[("type", .str "Custom"), ("key", .str "  SHOP : Buy")]⟩

def noAddons : AddonKit Unit Unit Bool Unit where
  id _ := ""
  version _ := ""
  onEnable _ _ := .finish (.ok ())
  onDisable _ _ := .finish (.ok ())

/-- With two handlers registered, the button and a click in capitals reach the first, which breaks
down and takes back both; a click with a blank part reaches none. -/
theorem routes_alike_buy :
    ∃ (e : Engine Unit Unit Bool Unit) (viewer : Viewer) (outcome : Outcome)
      (e' : Engine Unit Unit Bool Unit),
      performAction ⟨noAddons, World.replacing⟩ 1 (.custom World.shopKey) (some viewer) .empty e =
        some (.ok (.dispatched outcome), e') ∧
      click ⟨noAddons, World.replacing⟩ 1 "\tSHOP" "BUY " .empty viewer.player e =
        some (.ok outcome, e') ∧
      outcome.failed = 1 ∧
      Delivers World.replacing 0 ⟨World.shopKey, .empty, viewer.player, e.replies⟩ e outcome e' ∧
      ∃ fault, click ⟨noAddons, World.replacing⟩ 1 "shop" " " .empty viewer.player e =
        some (.error (.key fault), e.after [.log (droppedClick "shop" " " fault)]) := by
  let viewer : Viewer := ⟨⟨⟨0⟩, none⟩, "hub", 0, 64, 0, "survival"⟩
  obtain ⟨world, hvisits, hfailed⟩ :
      ∃ world, World.Visits World.replacing 1 World.selling ⟨Registry.empty, (), []⟩ world ∧
        (World.dispatch World.replacing 1 ⟨World.shopKey, .empty, viewer.player, false⟩ world).map
          (fun x ↦ x.1.failed) = some 1 := by
    refine ⟨_, .onward rfl (.onward rfl .here), ?_⟩
    decide +kernel
  let e : Engine Unit Unit Bool Unit := (build {} ()).inWorldOf world
  have haction : CompileM.outcome (Compile.action Catalog.empty (fun _ ↦ throw (.cycle []))
      buyAction) = .ok (some (.custom World.shopKey)) :=
    Compile.action_eq_custom.2 ⟨by decide +kernel, "  SHOP : Buy", rfl, by decide +kernel⟩
  obtain ⟨_, _, hsame, hdelivers, hdropped, _⟩ := routes_alike (e := e) hvisits rfl haction
  obtain ⟨⟨outcome, world'⟩, hworld, hcount⟩ := Option.map_eq_some_iff.1 hfailed
  have hdispatch : dispatch ⟨noAddons, World.replacing⟩ 1 World.shopKey .empty viewer.player e =
      some (outcome, e.inWorldOf world') := dispatch_eq_some.2 ⟨world', hworld, rfl⟩
  obtain ⟨hperform, hclick⟩ := hsame ⟨noAddons, World.replacing⟩ 1 .empty viewer "\tSHOP" "BUY "
    (by decide +kernel)
  rw [hdispatch] at hperform hclick
  have hfault : Key.make? "shop" " " = .error (.badValue "") := by decide +kernel
  exact ⟨e, viewer, outcome, e.inWorldOf world', hperform, hclick, hcount,
    hdelivers _ 0 _ _ _ _ hdispatch, _, (hdropped _ 1 _ _ _ _ _ hfault).1⟩

end Engine

end DialogKit
