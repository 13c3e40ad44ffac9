import DialogKit.Proofs.Compile.WellFormed
import DialogKit.Proofs.Text.Replace

/-!
# The labels of inputs

An input is labelled with the text that its section gives, as the formatter displays it, or with its
id if the section gives no text that shows. The text is looked at before it is displayed. So a label
shows something whenever the formatter leaves no text blank that shows something, and a formatter
that does so anyway gives inputs without a visible label.
-/

namespace DialogKit

open CompileM

theorem Text.not_shows_empty : ¬ Text.Shows "" :=
  fun h ↦ h (by decide)

/-- Whatever shows something still does so as it is displayed. -/
def Host.KeepsShown (host : Host) : Prop :=
  ∀ s, Text.Shows s → Text.Shows (host.format s)

/-! ## One label -/

namespace Component

/-- The section gives a text that shows as the label, on its own or in a map. -/
inductive GivesLabel (part : Document) : String → Prop
  | plain {s : String} (value : part.value? "label" = some (.str s)) (shows : Text.Shows s) :
      GivesLabel part s
  | inMap {s : String} {entries : List (String × Value)}
      (value : part.value? "label" = some (.map entries)) (text : part.str? "label.text" = some s)
      (shows : Text.Shows s) : GivesLabel part s

/-- What an input of the section with the id is labelled with. -/
inductive Labelled (part : Document) (host : Host) (id : String) : String → Prop
  | given {s : String} (gives : GivesLabel part s) : Labelled part host id (host.format s)
  | byId (gives : ∀ s, ¬ GivesLabel part s) : Labelled part host id id

section

variable {part : Document} {host : Host} {id : String}

/-- The raw label is the one given, if that shows anything. -/
theorem givesLabel_iff {s : String} :
    GivesLabel part s ↔ rawLabel part = s ∧ Text.Shows s := by
  constructor
  · intro h
    unfold rawLabel
    cases h with
    | plain hvalue hshows => exact ⟨by rw [hvalue], hshows⟩
    | inMap hvalue htext hshows => exact ⟨by rw [hvalue]; simp [Document.str, htext], hshows⟩
  · rintro ⟨hraw, hshows⟩
    unfold rawLabel at hraw
    split at hraw
    case h_1 text hvalue => exact .plain (hraw ▸ hvalue) hshows
    case h_2 entries hvalue =>
      cases htext : part.str? "label.text" with
      | some text =>
        obtain rfl : text = s := by simpa [Document.str, htext] using hraw
        exact .inMap hvalue htext hshows
      | none =>
        obtain rfl : "" = s := by simpa [Document.str, htext] using hraw
        exact absurd hshows Text.not_shows_empty
    case h_3 => exact absurd (hraw ▸ hshows) Text.not_shows_empty

theorem GivesLabel.unique {s s' : String} (h : GivesLabel part s) (h' : GivesLabel part s') :
    s' = s := by
  have hraw := (givesLabel_iff.1 h).1
  have hraw' := (givesLabel_iff.1 h').1
  exact hraw'.symm.trans hraw

theorem labelled_label (part : Document) (host : Host) (id : String) :
    Labelled part host id (label part id host) := by
  unfold label
  dsimp only
  split
  case isTrue hblank =>
    apply Labelled.byId
    intro s hgives
    obtain ⟨rfl, hshows⟩ := givesLabel_iff.1 hgives
    simp [Text.shows_iff.1 hshows] at hblank
  case isFalse hshows =>
    have hraw : Text.Shows (rawLabel part) := Text.shows_iff.2 (by simpa using hshows)
    exact .given (givesLabel_iff.2 ⟨rfl, hraw⟩)

/-- The label shows something unless the formatter leaves nothing of the text that is given. -/
theorem Labelled.shows_iff {s : String} (h : Labelled part host id s) (hid : Text.Shows id) :
    Text.Shows s ↔ ∀ text, GivesLabel part text → Text.Shows (host.format text) := by
  cases h with
  | @given text hgives =>
    constructor
    · intro hshows other hother
      rwa [hgives.unique hother]
    · intro hall
      exact hall text hgives
  | byId hnone => exact iff_of_true hid fun text hgives ↦ absurd hgives (hnone text)

theorem label_of_built {input : Input} (h : built part host = .ok input) :
    input.label = label part input.id host := by
  rw [built_of_id (id_of_built h)] at h
  obtain ⟨kind, _, hinput⟩ := map_eq_ok.1 h
  exact congrArg Input.label hinput.symm

end

/-- All labels show something exactly if the formatter leaves no text blank that does. -/
theorem keepsShown_iff {host : Host} :
    host.KeepsShown ↔ ∀ part id, Text.Shows id → Text.Shows (label part id host) := by
  constructor
  · intro hkeeps part id hid
    have hlabelled := labelled_label part host id
    apply (hlabelled.shows_iff hid).2
    intro text hgives
    exact hkeeps text (givesLabel_iff.1 hgives).2
  · intro hall s hs
    have hgives : GivesLabel ⟨[("label", .str s)]⟩ s := .plain rfl hs
    have hlabelled := labelled_label ⟨[("label", .str s)]⟩ host s
    exact (hlabelled.shows_iff hs).1 (hall _ s hs) s hgives

end Component

/-! ## The labels of compiled dialogs -/

namespace Compiler

variable {c : Compiler}

/-- What a dialog embeds is compiled on some path. -/
theorem exists_dialog_of_embeds (hkinds : c.kinds.ShowBuilt) {path : List String}
    {id target : String} {d dialog : Definition} (h : outcome (c.dialog path id) = .ok d)
    (he : d.Embeds target dialog) : ∃ path', outcome (c.dialog path' target) = .ok dialog := by
  induction he generalizing path id with
  | here hmem haction => exact ⟨_, (carries_of_dialog c hkinds h _ hmem _ _ haction).2⟩
  | deeper hmem haction _ ih => exact ih (carries_of_dialog c hkinds h _ hmem _ _ haction).2

/-- The label of an input shows something, unless the formatter leaves nothing of a text that does. -/
theorem labels_show (hkinds : c.kinds.ShowBuilt) :
    (c.host.KeepsShown ↔
      ∀ part id, Text.Shows id → Text.Shows (Component.label part id c.host)) ∧
    ∀ id d, outcome (c.compile id) = .ok d →
      ∀ dialog, (dialog = d ∨ ∃ target, d.Embeds target dialog) → ∀ input ∈ dialog.inputs,
        Text.Shows input.id ∧
        (∃ part, Component.built part c.host = .ok input ∧
          Component.Labelled part c.host input.id input.label) ∧
        (c.host.KeepsShown → Text.Shows input.label) := by
  refine ⟨Component.keepsShown_iff, ?_⟩
  intro id d hopen dialog hdialog input hinput
  obtain ⟨_, _, hd⟩ := (compile_eq_ok c).1 hopen
  have hcompiled : ∃ path id', outcome (c.dialog path id') = .ok dialog := by
    rcases hdialog with rfl | ⟨target, hembeds⟩
    · exact ⟨_, _, hd⟩
    · obtain ⟨path, hembedded⟩ := exists_dialog_of_embeds hkinds hd hembeds
      exact ⟨path, target, hembedded⟩
  obtain ⟨path, id', hcompiled⟩ := hcompiled
  obtain ⟨part, hbuilt⟩ := exists_built_of_mem hcompiled hinput
  have hid : Text.Shows input.id := Component.shows_of_shownText? (Component.id_of_built hbuilt)
  have hlabel := Component.label_of_built hbuilt
  refine ⟨hid, ⟨part, hbuilt, ?_⟩, ?_⟩
  · rw [hlabel]
    exact Component.labelled_label part c.host input.id
  · intro hkeeps
    rw [hlabel]
    exact Component.keepsShown_iff.1 hkeeps part input.id hid

/-- A notice that shows a form with one input, which is labelled with markup only. -/
def forms : Catalog :=
  ⟨[("menu", noticeOf "form"),
    ("form", ⟨[("inputs", .list [.map [("id", .str "name"), ("label", .str "&a")]])]⟩)]⟩

theorem embeds_form (host : Host) : ∃ d dialog kind,
    outcome ((builtin forms host).compile "menu") = .ok d ∧ d.Embeds "form" dialog ∧
    dialog.inputs = [⟨"name", host.format "&a", kind⟩] := by
  have hrun : ∃ d dialog t kind, Trail.compile (builtin forms host) 3 "menu" = some (.ok d, t) ∧
      d.Embeds "form" dialog ∧ dialog.inputs = [⟨"name", host.format "&a", kind⟩] :=
    ⟨_, _, _, _, rfl, .here (.head _) rfl, rfl⟩
  obtain ⟨d, dialog, t, kind, hrun, hembeds, hinputs⟩ := hrun
  have hlimit : forms.size < 3 := by decide
  exact ⟨d, dialog, kind, Trail.outcome_of_compile hlimit hrun, hembeds, hinputs⟩

theorem labels_show_bracketed :
    let host : Host := { format := fun s ↦ "[" ++ s ++ "]" }
    host.KeepsShown ∧ ∃ d dialog kind, outcome ((builtin forms host).compile "menu") = .ok d ∧
      d.Embeds "form" dialog ∧ dialog.inputs = [⟨"name", "[&a]", kind⟩] ∧
      Text.Shows "name" ∧ Text.Shows "[&a]" := by
  intro host
  have hkeeps : host.KeepsShown := by
    intro s _
    rw [Text.shows_iff]
    simp [host, Text.isBlankText, Text.isBlank]
  obtain ⟨d, dialog, kind, hopen, hembeds, hinputs⟩ := embeds_form host
  have hinput : ⟨"name", "[&a]", kind⟩ ∈ dialog.inputs := by
    rw [hinputs]
    exact List.mem_singleton_self _
  have hlabels := labels_show (c := builtin forms host) KindSet.showBuilt_builtin
  obtain ⟨hname, _, hlabel⟩ :=
    hlabels.2 "menu" d hopen dialog (.inr ⟨"form", hembeds⟩) ⟨"name", "[&a]", kind⟩ hinput
  exact ⟨hkeeps, d, dialog, kind, hopen, hembeds, hinputs, hname, hlabel hkeeps⟩

/-- A formatter that takes the markup away leaves nothing of the label. -/
theorem label_stripped :
    let host : Host := { format := Text.replaceAll "&a" "" }
    ∃ d dialog, outcome ((builtin forms host).compile "menu") = .ok d ∧ d.Embeds "form" dialog ∧
      ∃ input ∈ dialog.inputs, Text.Shows input.id ∧ ¬ Text.Shows input.label := by
  intro host
  obtain ⟨d, dialog, kind, hopen, hembeds, hinputs⟩ := embeds_form host
  have hname : Text.Shows "name" := Text.shows_iff.2 (by decide)
  have hstripped : host.format "&a" = "" := by decide
  rw [hstripped] at hinputs
  refine ⟨d, dialog, hopen, hembeds, ⟨"name", "", kind⟩, ?_, hname, Text.not_shows_empty⟩
  rw [hinputs]
  exact List.mem_singleton_self _

end Compiler

end DialogKit
