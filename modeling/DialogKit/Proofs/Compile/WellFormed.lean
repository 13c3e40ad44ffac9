import DialogKit.Proofs.Compile.Inputs
import DialogKit.Proofs.Compile.Parallel
import DialogKit.Proofs.Compile.Trail
import DialogKit.Proofs.Key.Canonical
import Mathlib.Data.List.TakeWhile

/-!
# Well-formed definitions

What holds of every compiled dialog, however loosely it was written: its inputs have distinct ids,
its ranges are sliders, its lists of choices and its grids are not empty, and its actions carry what
they need. The parts of a dialog are built and left out one by one, and each is well-formed when it
is built. The dialogs that are embedded are compiled dialogs themselves.
-/

namespace DialogKit

open CompileM

namespace Text

/-- Some text is left without the blanks around it. -/
def Shows (s : String) : Prop :=
  trim s ≠ ""

theorem shows_iff {s : String} : Shows s ↔ isBlankText s = false := by
  have hempty : trim s = "" ↔ trimChars s.toList = [] := String.ofList_eq_empty_iff
  unfold Shows isBlankText
  rw [Ne, hempty, trimChars_eq_nil, List.all_eq_false]
  simp

end Text

/-! ## What well-formed means -/

/-- The numbers of a range are finite and leave room between its bounds, and there is something to
choose from. -/
def InputKind.WellFormed : InputKind → Prop
  | .numberRange min max step initial _ _ =>
      (min.isFinite ∧ max.isFinite ∧ step.isFinite ∧ initial.isFinite) ∧ min < max
  | .singleOption _ _ choices => choices ≠ []
  | .boolean .. | .text .. => True

/-- The text of an action shows something, and a dialog goes by its own id. -/
def Action.WellFormed : Action → Prop
  | .close | .goBack => True
  | .copyToClipboard text => Text.Shows text
  | .showDialog target dialog => target = dialog.id
  | .openUrl url => Text.Shows url
  | .runCommand template _ => Text.Shows template
  | .suggestCommand template => Text.Shows template
  | .custom key => key.WellFormed

/-- A grid has a button besides the one to leave. -/
def Layout.WellFormed : Layout → Prop
  | .multiAction buttons _ _ => buttons ≠ []
  | .confirmation .. | .notice _ => True

/-- The dialog is one of the catalog, and its parts are well-formed. This says nothing of the
dialogs that it embeds, except for their ids. -/
structure Definition.WellFormed (catalog : Catalog) (d : Definition) : Prop where
  known : catalog.contains d.id
  distinct : (d.inputs.map Input.id).Nodup
  named : ∀ input ∈ d.inputs, Text.Shows input.id
  inputs : ∀ input ∈ d.inputs, input.kind.WellFormed
  layout : d.layout.WellFormed
  actions : ∀ button ∈ d.layout.buttons, ∀ action ∈ button.action, action.WellFormed

/-! ## The parts of a dialog -/

namespace Component

theorem shows_of_shownText? {part : Document} {path text : String}
    (h : shownText? part path = some text) : Text.Shows text :=
  Text.shows_iff.2 (Compile.shownText?_eq_some.1 h).2

theorem wellFormed_rangeInput {part : Document} {id : String} {kind : InputKind}
    (h : rangeInput part id = .ok kind) : kind.WellFormed := by
  have hfits := (rangeInput_eq_ok_iff part id).1 ⟨kind, h⟩
  rw [rangeInput_of_fits hfits] at h
  obtain rfl := Except.ok.inj h
  exact ⟨⟨hfits.min_finite, hfits.max_finite, hfits.step_finite, hfits.initial_finite⟩,
    hfits.below⟩

theorem wellFormed_choiceInput {part : Document} {host : Host} {kind : InputKind}
    (h : choiceInput part host = .ok kind) : kind.WellFormed := by
  unfold choiceInput at h
  split at h
  case h_1 => simp at h
  case h_2 choices hsome =>
    obtain rfl := Except.ok.inj h
    exact hsome

theorem wellFormed_inputKind {part : Document} {id : String} {host : Host} {kind : InputKind}
    (h : (inputKind part id host).run.result = .ok kind) : kind.WellFormed := by
  unfold inputKind at h
  split at h
  case h_1 =>
    obtain rfl := Except.ok.inj h
    trivial
  case h_2 => exact wellFormed_rangeInput h
  case h_3 =>
    obtain rfl := Except.ok.inj h
    trivial
  case h_4 => exact wellFormed_choiceInput h
  case h_5 => simp at h

theorem wellFormed_built {part : Document} {host : Host} {input : Input}
    (h : built part host = .ok input) : Text.Shows input.id ∧ input.kind.WellFormed := by
  have hid := id_of_built h
  rw [built_of_id hid] at h
  obtain ⟨kind, hkind, hinput⟩ := map_eq_ok.1 h
  have hinputKind : input.kind = kind := congrArg Input.kind hinput.symm
  exact ⟨shows_of_shownText? hid, hinputKind ▸ wellFormed_inputKind hkind⟩

end Component

namespace Compile

theorem wellFormed_map {part : Document} {field : String} {make : String → Action} {found : Action}
    (hmake : ∀ text, Text.Shows text → (make text).WellFormed)
    (h : (Component.shownText? part field).map make = some found) : found.WellFormed := by
  obtain ⟨text, htext, rfl⟩ := Option.map_eq_some_iff.1 h
  exact hmake text (Component.shows_of_shownText? htext)

theorem wellFormed_ownAction {part : Document} {found : Action} (h : ownAction part = some found) :
    found.WellFormed := by
  unfold ownAction at h
  split at h
  case h_1 =>
    obtain rfl := Option.some.inj h
    trivial
  case h_2 =>
    obtain rfl := Option.some.inj h
    trivial
  case h_8 =>
    obtain ⟨text, _, hkey⟩ := Option.bind_eq_some_iff.1 h
    obtain ⟨key, _, rfl⟩ := Option.map_eq_some_iff.1 hkey
    exact key.wellFormed
  case h_9 => simp at h
  all_goals exact wellFormed_map (by intro text hshows; exact hshows) h

section

variable {catalog : Catalog} {host : Host} {compileTarget : String → CompileM Definition}
  (htarget : ∀ target dialog, outcome (compileTarget target) = .ok dialog → dialog.id = target)

include htarget

theorem wellFormed_sectionAction {part : Document} {found : Option Action}
    (h : outcome (sectionAction catalog compileTarget part) = .ok found) :
    ∀ action ∈ found, action.WellFormed := by
  intro action haction
  rcases outcome_sectionAction_cases catalog part with
    ⟨target, _, _, hshown⟩ | ⟨_, hplain⟩
  · rw [hshown] at h
    cases hdialog : outcome (compileTarget target) with
    | ok dialog =>
      obtain rfl : some (.showDialog target dialog) = found := by simpa [hdialog, shownAs] using h
      obtain rfl : .showDialog target dialog = action := Option.some.inj haction
      exact (htarget target dialog hdialog).symm
    | error fault =>
      rw [hdialog] at h
      cases fault <;> simp [shownAs] at h <;> simp [← h] at haction
  · obtain rfl : plainAction part = found := by simpa [hplain] using h
    unfold plainAction at haction
    split at haction
    · exact wellFormed_ownAction haction
    · obtain rfl := Option.some.inj haction
      trivial

theorem wellFormed_button {part : Option Document} {slot : ButtonSlot} {built : Button}
    (h : outcome (button catalog host compileTarget part slot) = .ok built) :
    ∀ action ∈ built.action, action.WellFormed := by
  cases part with
  | none =>
    obtain rfl : slot.plainButton = built := by simpa [outcome_button_none] using h
    simp [ButtonSlot.plainButton]
  | some part =>
    rw [outcome_button_some] at h
    obtain ⟨found, hfound, rfl⟩ := map_eq_ok.1 h
    exact wellFormed_sectionAction htarget hfound

end

end Compile

theorem Layout.Made.wellFormed {R : Button → Button → Prop} {layout layout' : Layout}
    (h : layout.Made R layout') : layout.WellFormed := by
  cases h with
  | confirmation => trivial
  | notice => trivial
  | multiAction _ hne => exact hne

namespace Compiler

variable (catalog : Catalog) (host : Host)

/-- A built-in kind lays out what it builds and its placeholders, in a grid that is not empty. -/
theorem made_of_runPlan {compileTarget : String → CompileM Definition} {root : Document}
    {view : KindView} {layout : Layout} {P : Button → Prop}
    (hbutton : ∀ part slot built,
      outcome (Compile.button catalog host compileTarget part slot) = .ok built → P built)
    (hplaceholders : ∀ button ∈ Kind.placeholders, P button)
    (h : outcome ((builtin catalog host).runPlan compileTarget
      (((builtin catalog host).kindOf root).plan view root)) = .ok layout) :
    layout.Made (fun button _ ↦ P button) layout := by
  let R (button _ : Button) : Prop := P button
  have hself : ∀ part slot, (∀ section_ ∈ part, Kind.ReadsButton root section_) →
      Agree R (outcome (Compile.button catalog host compileTarget part slot))
        (outcome (Compile.button catalog host compileTarget part slot)) :=
    fun part slot _ ↦ Agree.of_forall_ok (hbutton part slot)
  have hlayout := agree_layout hself hplaceholders view view
  rw [h] at hlayout
  exact Agree.ok_iff.1 hlayout

theorem wellFormed_dialog {path : List String} {id : String} {d : Definition}
    (h : outcome ((builtin catalog host).dialog path id) = .ok d) : d.WellFormed catalog := by
  have hinputs : ∀ input ∈ d.inputs, Text.Shows input.id ∧ input.kind.WellFormed := by
    intro input hinput
    obtain ⟨part, hpart⟩ := exists_built_of_mem h hinput
    exact Component.wellFormed_built hpart
  obtain ⟨_, root, layout, hroot, hlayout, rfl⟩ := (dialog_eq_ok _).1 h
  have hplaceholders : ∀ button ∈ Kind.placeholders,
      ∀ action ∈ button.action, action.WellFormed := by
    intro button hbutton action haction
    simp [Kind.action_of_mem_placeholders hbutton] at haction
  have hmade := made_of_runPlan catalog host
    (fun _ _ _ ↦ Compile.wellFormed_button fun _ _ ↦ dialog_id catalog host) hplaceholders hlayout
  constructor
  case known =>
    rw [← Catalog.isSome_root?]
    exact Option.isSome_iff_exists.2 ⟨root, hroot⟩
  case distinct =>
    change ((Compile.inputs id host root).result.map Input.id).Nodup
    rw [Compile.result_inputs]
    exact Compile.nodup_firstOfEach _ _
  case named => exact fun input hinput ↦ (hinputs input hinput).1
  case inputs => exact fun input hinput ↦ (hinputs input hinput).2
  case layout => exact hmade.wellFormed
  case actions => exact List.forall₂_same.1 hmade.buttons

/-- A compiled dialog is well-formed, and so is every dialog that it embeds, at any depth. -/
theorem wellFormed_of_compile {id : String} {d : Definition}
    (h : outcome ((builtin catalog host).compile id) = .ok d) :
    d.WellFormed catalog ∧ ∀ target dialog, d.Embeds target dialog → dialog.WellFormed catalog := by
  obtain ⟨_, _, hdialog⟩ := (compile_eq_ok _).1 h
  constructor
  · exact wellFormed_dialog catalog host hdialog
  · intro target dialog hembeds
    have hembedded := (dialog_of_embeds catalog host hdialog hembeds).2
    exact wellFormed_dialog catalog host hembedded

/-- A button section with an action that has one setting. -/
def acting (kind setting text : String) : Value :=
  .map [("action", .map [("type", .str kind), (setting, .str text)])]

/-- A dialog with a grid and two inputs of one id, which shows an empty dialog. -/
def gallery : Catalog :=
  ⟨[("gallery", ⟨[("type", .str "multi_action"),
      ("inputs", .list
        [.map [("id", .bool true), ("type", .str "single_option"), ("entries", .list [.str "a"])],
          .map [("id", .str "true")]]),
      ("buttons", .list
        [acting "custom" "key" " Shop:Buy/Sword ", acting "open_url" "url" "  ",
          acting "show_dialog" "id" "leaf"])]⟩),
    ("leaf", ⟨[]⟩)]⟩

theorem wellFormed_of_compile_gallery : ∃ d,
    outcome ((builtin gallery {}).compile "gallery") = .ok d ∧ d.Embeds "leaf" leafDialog ∧
    d.inputs.map Input.id = ["true"] ∧ d.WellFormed gallery ∧ leafDialog.WellFormed gallery := by
  have hrun : ∃ d t, Trail.compile (builtin gallery {}) 3 "gallery" = some (.ok d, t) ∧
      d.Embeds "leaf" leafDialog ∧ d.inputs.map Input.id = ["true"] :=
    ⟨_, _, rfl, .here (.tail _ (.tail _ (.head _))) rfl, rfl⟩
  obtain ⟨d, t, hrun, hembeds, hids⟩ := hrun
  have hopen := Trail.outcome_of_compile (by decide) hrun
  obtain ⟨hd, hembedded⟩ := wellFormed_of_compile gallery {} hopen
  exact ⟨d, hopen, hembeds, hids, hd, hembedded _ _ hembeds⟩

end Compiler

end DialogKit
