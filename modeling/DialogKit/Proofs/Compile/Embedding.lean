import DialogKit.Proofs.Compile.Cycle

/-!
# Embedded dialogs

A compiled dialog carries the definitions of the dialogs that its buttons show, at any depth. Each
of them is what compiling its target on its own gives: neither the path on which a dialog is reached
nor the buttons built before it leave a trace in a successful result.

The reason is that a shorter path only makes compiling succeed more often (`dialog_mono`): the path
is read at one place, where it stops a cycle, and a cycle is never turned into a button.
-/

namespace DialogKit

open CompileM

/-- A button of the dialog, or of a dialog embedded in it, shows `target` with this definition. -/
inductive Definition.Embeds : Definition → String → Definition → Prop where
  | here {d dialog : Definition} {button : Button} {target : String} :
      button ∈ d.layout.buttons → button.action = some (.showDialog target dialog) →
        Embeds d target dialog
  | deeper {d between dialog : Definition} {button : Button} {shown target : String} :
      button ∈ d.layout.buttons → button.action = some (.showDialog shown between) →
        Embeds between target dialog → Embeds d target dialog

namespace Compile

/-- A button shows at most a dialog of the catalog, as it was compiled. -/
def Carries (catalog : Catalog) (compileTarget : String → CompileM Definition)
    (button : Button) : Prop :=
  ∀ target dialog, button.action = some (.showDialog target dialog) →
    catalog.contains target ∧ outcome (compileTarget target) = .ok dialog

section

variable {catalog : Catalog} {compileTarget : String → CompileM Definition} {host : Host}
  {slot : ButtonSlot}

theorem shownAs_eq_show {shown target : String} {x : Except CompileFault Definition}
    {dialog : Definition} :
    shownAs shown x = .ok (some (.showDialog target dialog)) ↔ shown = target ∧ x = .ok dialog := by
  cases x with
  | ok d => simp [shownAs]
  | error fault => cases fault <;> simp [shownAs]

theorem carries_of_action_eq_none {button : Button} (h : button.action = none) :
    Carries catalog compileTarget button := by
  intro target dialog haction
  simp [h] at haction

theorem carries_button {part : Option Document} {built : Button}
    (h : outcome (button catalog host compileTarget part slot) = .ok built) :
    Carries catalog compileTarget built := by
  cases part with
  | none =>
    obtain rfl : slot.plainButton = built := by simpa [outcome_button_none] using h
    exact carries_of_action_eq_none rfl
  | some part =>
    rw [outcome_button_some] at h
    obtain ⟨found, hfound, rfl⟩ := map_eq_ok.1 h
    rcases outcome_sectionAction_cases catalog part with
      ⟨target, _, hcontains, hshown⟩ | ⟨_, hplain⟩
    · rw [hshown] at hfound
      intro shown dialog haction
      obtain rfl : found = some (.showDialog shown dialog) := haction
      obtain ⟨rfl, hdialog⟩ := shownAs_eq_show.1 hfound
      exact ⟨hcontains, hdialog⟩
    · obtain rfl : plainAction part = found := by simpa [hplain] using hfound
      intro shown dialog haction
      exact absurd haction (isPlain_plainAction part shown dialog)

/-- A button that is built stays the same with a way to compile targets that succeeds wherever the
one before did, provided that this one fails with nothing but cycles. -/
theorem button_mono {compileTarget' : String → CompileM Definition} {stopped : String → Prop}
    (htarget : ∀ target, catalog.contains target →
      CyclesIff (outcome (compileTarget target)) (stopped target))
    (hmono : ∀ target dialog, catalog.contains target →
      outcome (compileTarget target) = .ok dialog → outcome (compileTarget' target) = .ok dialog)
    {part : Option Document} {built : Button}
    (h : outcome (button catalog host compileTarget part slot) = .ok built) :
    outcome (button catalog host compileTarget' part slot) = .ok built := by
  cases part with
  | none => exact h
  | some part =>
    rw [outcome_button_some] at h ⊢
    obtain ⟨found, hfound, rfl⟩ := map_eq_ok.1 h
    refine map_eq_ok.2 ⟨found, ?_, rfl⟩
    rcases outcome_sectionAction_cases catalog part with
      ⟨target, _, hcontains, hshown⟩ | ⟨_, hplain⟩
    · rw [hshown] at hfound ⊢
      rcases htarget target hcontains with ⟨⟨chain, hchain⟩, _⟩ | ⟨⟨dialog, hdialog⟩, _⟩
      · simp [hchain, shownAs] at hfound
      · rwa [hmono target dialog hcontains hdialog, ← hdialog]
    · rwa [hplain] at hfound ⊢

end

end Compile

/-- The buttons of the layout with which a plan ends have a property, if those that are built on the
way have it. -/
inductive Plan.Only (P : Button → Prop) : Plan → Prop where
  | finish {layout : Layout} : (∀ button ∈ layout.buttons, P button) → Only P (.finish layout)
  | fail (fault : CompileFault) : Only P (.fail fault)
  | note (event : Log.Event) {next : Plan} : Only P next → Only P (.note event next)
  | button (part : Option Document) (slot : ButtonSlot) {next : Button → Plan} :
      (∀ button, P button → Only P (next button)) → Only P (.button part slot next)

namespace Compiler

variable {c : Compiler} {compileTarget : String → CompileM Definition}

theorem runPlan_only {P : Button → Prop}
    (hbutton : ∀ part slot built,
      outcome (Compile.button c.catalog c.host compileTarget part slot) = .ok built → P built)
    {plan : Plan} (honly : plan.Only P) {layout : Layout}
    (h : outcome (c.runPlan compileTarget plan) = .ok layout) :
    ∀ button ∈ layout.buttons, P button := by
  induction honly with
  | @finish result hall =>
    obtain rfl : result = layout := by simpa [runPlan] using h
    exact hall
  | fail fault => simp [runPlan] at h
  | note event _ ih =>
    obtain ⟨_, _, hnext⟩ := outcome_bind_eq_ok.1 h
    exact ih hnext
  | button part slot _ ih =>
    obtain ⟨built, hbuilt, hnext⟩ := outcome_bind_eq_ok.1 h
    exact ih built (hbutton part slot built hbuilt) hnext

theorem runPlan_mono {compileTarget' : String → CompileM Definition}
    (hbutton : ∀ part slot built,
      outcome (Compile.button c.catalog c.host compileTarget part slot) = .ok built →
        outcome (Compile.button c.catalog c.host compileTarget' part slot) = .ok built)
    (plan : Plan) {layout : Layout} (h : outcome (c.runPlan compileTarget plan) = .ok layout) :
    outcome (c.runPlan compileTarget' plan) = .ok layout := by
  induction plan with
  | finish result => exact h
  | fail fault => exact h
  | note event next ih =>
    obtain ⟨_, _, hnext⟩ := outcome_bind_eq_ok.1 h
    exact outcome_bind_eq_ok.2 ⟨_, outcome_lift _, ih hnext⟩
  | button part slot next ih =>
    obtain ⟨built, hbuilt, hnext⟩ := outcome_bind_eq_ok.1 h
    exact outcome_bind_eq_ok.2 ⟨built, hbutton part slot built hbuilt, ih built hnext⟩

end Compiler

namespace Kind

theorem only_buildAll {P : Button → Prop} {next : List Button → Plan}
    (hnext : ∀ buttons, (∀ button ∈ buttons, P button) → (next buttons).Only P)
    (parts : List Document) : (buildAll parts next).Only P := by
  induction parts generalizing next with
  | nil => exact hnext [] (by simp)
  | cons part parts ih =>
    refine .button _ _ fun button hbutton ↦ ih fun buttons hbuttons ↦ hnext (button :: buttons) ?_
    simpa [hbutton] using hbuttons

theorem only_finishGrid {P : Button → Prop} (root : Document) {buttons : List Button}
    (hbuttons : ∀ button ∈ buttons, P button) : (finishGrid root buttons).Only P := by
  unfold finishGrid
  cases root.part? "exit_button" with
  | none => exact .finish (by simpa [Layout.buttons] using hbuttons)
  | some part =>
    refine .button _ _ fun exit hexit ↦ .finish ?_
    simp only [Layout.buttons, List.forall_mem_append]
    exact ⟨hbuttons, by simpa using hexit⟩

/-- Of the actions that show a dialog, a layout of this kind only has those of the buttons that the
kind builds. -/
def ShowsBuilt (kind : Kind) : Prop :=
  ∀ P : Option Action → Prop, (∀ found, Compile.IsPlain found → P found) →
    ∀ view root, (kind.plan view root).Only fun button ↦ P button.action

theorem showsBuilt_confirmation : confirmation.ShowsBuilt := by
  intro P _ view root
  refine .button _ _ fun confirm hconfirm ↦ .button _ _ fun cancel hcancel ↦ .finish ?_
  simpa [Layout.buttons] using ⟨hconfirm, hcancel⟩

theorem showsBuilt_notice : notice.ShowsBuilt := by
  intro P _ view root
  exact .button _ _ fun exit hexit ↦ .finish (by simpa [Layout.buttons] using hexit)

/-- Besides the buttons that it builds, a grid only shows placeholders, which have no action. -/
theorem showsBuilt_multiAction : multiAction.ShowsBuilt := by
  intro P hplain view root
  refine only_buildAll (fun buttons hbuttons ↦ ?_) _
  split
  · refine .note _ (only_finishGrid root fun button hmem ↦ ?_)
    rw [action_of_mem_placeholders hmem]
    exact hplain none Compile.isPlain_none
  · exact only_finishGrid root hbuttons

variable (catalog : Catalog) (host : Host)

/-- The built-in kinds look at nothing but the root. -/
theorem plan_view (view view' : KindView) (root : Document) :
    ((Compiler.builtin catalog host).kindOf root).plan view root =
      ((Compiler.builtin catalog host).kindOf root).plan view' root := by
  rw [kindOf_builtin]
  split <;> rfl

end Kind

/-- Every kind of the set only shows the dialogs of the buttons that it builds. -/
def KindSet.ShowBuilt (set : KindSet) : Prop :=
  ∀ name kind, set.get? name = some kind → kind.ShowsBuilt

theorem KindSet.result_resolve (set : KindSet) (name : String) :
    (set.resolve name).result =
      (set.get? name).getD ((set.get? "confirmation").getD .confirmation) := by
  unfold KindSet.resolve
  cases set.get? name <;> rfl

/-- What holds of the kinds of a set and of the kind that stands for unknown ones holds of each kind
that is selected. -/
theorem KindSet.forall_resolve {set : KindSet} {P : Kind → Prop}
    (h : ∀ name kind, set.get? name = some kind → P kind) (hdefault : P .confirmation)
    (name : String) : P (set.resolve name).result := by
  rw [result_resolve]
  cases hname : set.get? name with
  | some kind => exact h name kind hname
  | none =>
    cases hconfirmation : set.get? "confirmation" with
    | some kind => exact h _ kind hconfirmation
    | none => exact hdefault

theorem KindSet.ShowBuilt.resolve {set : KindSet} (h : set.ShowBuilt) (name : String) :
    (set.resolve name).result.ShowsBuilt :=
  forall_resolve h Kind.showsBuilt_confirmation name

theorem KindSet.eq_of_get?_builtin {name : String} {kind : Kind}
    (h : KindSet.builtin.result.get? name = some kind) :
    kind = .confirmation ∨ kind = .notice ∨ kind = .multiAction := by
  have hmem : (Text.lower name, kind) ∈ [("confirmation", Kind.confirmation),
    ("notice", Kind.notice), ("multi_action", Kind.multiAction)] := Entries.mem_of_get? h
  simp only [List.mem_cons, Prod.mk.injEq, List.not_mem_nil, or_false] at hmem
  exact hmem.imp And.right (Or.imp And.right And.right)

theorem KindSet.showBuilt_builtin : KindSet.builtin.result.ShowBuilt := by
  intro name kind h
  obtain rfl | rfl | rfl := eq_of_get?_builtin h
  · exact Kind.showsBuilt_confirmation
  · exact Kind.showsBuilt_notice
  · exact Kind.showsBuilt_multiAction

namespace Compiler

variable (catalog : Catalog) (host : Host)

/-- A dialog that is compiled on a path is compiled to the same on every path within it. -/
theorem dialog_mono {path path' : List String} (hsub : path' ⊆ path) {id : String} {d : Definition}
    (h : outcome ((builtin catalog host).dialog path id) = .ok d) :
    outcome ((builtin catalog host).dialog path' id) = .ok d := by
  induction path, id using dialog.induct (builtin catalog host) generalizing path' d with
  | case1 path id hmem => simp [dialog_of_mem _ hmem] at h
  | case2 path id hmem hnone => simp [dialog_of_root?_eq_none _ hmem hnone] at h
  | case3 path id hmem root hroot ih =>
    obtain ⟨_, root', layout, hroot', hlayout, hd⟩ := (dialog_eq_ok _).1 h
    refine (dialog_eq_ok _).2 ⟨fun hid ↦ hmem (hsub hid), root', layout, hroot', ?_, hd⟩
    rw [Kind.plan_view catalog host _ ((builtin catalog host).view (path ++ [id]))]
    refine runPlan_mono (fun part slot built hbuilt ↦ ?_) _ hlayout
    refine Compile.button_mono (cyclesIff_dialog catalog host _) ?_ hbuilt
    intro target dialog _ hdialog
    exact ih target (List.append_subset.2 ⟨by simp [hsub], by simp⟩) hdialog

/-- The buttons of a compiled dialog carry their targets as they are compiled behind it. -/
theorem carries_of_dialog (c : Compiler) (hkinds : c.kinds.ShowBuilt) {path : List String}
    {id : String} {d : Definition} (h : outcome (c.dialog path id) = .ok d) :
    ∀ button ∈ d.layout.buttons,
      Compile.Carries c.catalog (fun target ↦ c.dialog (path ++ [id]) target) button := by
  obtain ⟨_, root, layout, _, hlayout, rfl⟩ := c.dialog_eq_ok.1 h
  refine runPlan_only (fun _ _ _ hbuilt ↦ Compile.carries_button hbuilt) ?_ hlayout
  have hshows : (c.kindOf root).ShowsBuilt := hkinds.resolve _
  refine hshows (fun found ↦ ∀ target dialog, found = some (.showDialog target dialog) →
    c.catalog.contains target ∧ outcome (c.dialog (path ++ [id]) target) = .ok dialog) ?_ _ root
  intro found hplain target dialog haction
  exact absurd haction (hplain target dialog)

/-- What a dialog embeds is compiled alike with nothing on the path. -/
theorem dialog_of_embeds {path : List String} {id target : String} {d dialog : Definition}
    (h : outcome ((builtin catalog host).dialog path id) = .ok d) (he : d.Embeds target dialog) :
    catalog.contains target ∧ outcome ((builtin catalog host).dialog [] target) = .ok dialog := by
  induction he generalizing path id with
  | here hmem haction =>
    obtain ⟨hcontains, hdialog⟩ :=
      carries_of_dialog _ KindSet.showBuilt_builtin h _ hmem _ _ haction
    exact ⟨hcontains, dialog_mono catalog host (List.nil_subset _) hdialog⟩
  | deeper hmem haction _ ih =>
    obtain ⟨_, hbetween⟩ := carries_of_dialog _ KindSet.showBuilt_builtin h _ hmem _ _ haction
    exact ih hbetween

theorem dialog_id {path : List String} {id : String} {d : Definition}
    (h : outcome ((builtin catalog host).dialog path id) = .ok d) : d.id = id := by
  obtain ⟨_, _, _, _, _, rfl⟩ := (dialog_eq_ok _).1 h
  rfl

/-- Every embedded dialog is what its target is compiled to on its own. So compiling the target
gives it, unless the target may not be opened, and all dialogs embedded for one target are equal. -/
theorem embedded_eq_compiled {id target : String} {d dialog : Definition}
    (h : outcome ((builtin catalog host).compile id) = .ok d) (he : d.Embeds target dialog) :
    dialog.id = target ∧ catalog.contains target ∧
    outcome ((builtin catalog host).dialog [] target) = .ok dialog ∧
    (¬ catalog.Disables target → outcome ((builtin catalog host).compile target) = .ok dialog) ∧
    ∀ id' d' dialog', outcome ((builtin catalog host).compile id') = .ok d' →
      d'.Embeds target dialog' → dialog' = dialog := by
  obtain ⟨_, _, hroot⟩ := (compile_eq_ok _).1 h
  obtain ⟨hcontains, hdialog⟩ := dialog_of_embeds catalog host hroot he
  refine ⟨dialog_id catalog host hdialog, hcontains, hdialog, ?_, ?_⟩
  · intro henabled
    have hon : catalog.isEnabled target = true := by
      rw [← Bool.not_eq_false, Catalog.isEnabled_eq_false hcontains]
      exact henabled
    exact (compile_eq_ok _).2 ⟨hcontains, hon, hdialog⟩
  · intro id' d' dialog' h' he'
    obtain ⟨_, _, hroot'⟩ := (compile_eq_ok _).1 h'
    obtain ⟨_, hdialog'⟩ := dialog_of_embeds catalog host hroot' he'
    rw [hdialog] at hdialog'
    exact (Except.ok.inj hdialog').symm

/-- A notice whose button shows a dialog of the catalog. -/
theorem dialog_notice_of_names {path : List String} {id target : String} {root part : Document}
    {dialog : Definition} (hid : id ∉ path) (hroot : catalog.root? id = some root)
    (hkind : Kind.nameOf root = "notice") (hpart : root.part? "exit_button" = some part)
    (hnames : Compile.Names part target) (hcontains : catalog.contains target)
    (h : outcome ((builtin catalog host).dialog (path ++ [id]) target) = .ok dialog) :
    ∃ d button, outcome ((builtin catalog host).dialog path id) = .ok d ∧
      button ∈ d.layout.buttons ∧ button.action = some (.showDialog target dialog) := by
  refine ⟨(builtin catalog host).assembled id root (.notice _),
    Compile.dressed host part .acknowledge (some (.showDialog target dialog)), ?_, .head _, rfl⟩
  refine (dialog_eq_ok _).2 ⟨hid, root, _, hroot, ?_, rfl⟩
  rw [Kind.kindOf_builtin, hkind]
  refine outcome_bind_eq_ok.2 ⟨_, ?_, outcome_pure _⟩
  have hshown := Compile.outcome_sectionAction_of_names hnames hcontains
    fun target ↦ (builtin catalog host).dialog (path ++ [id]) target
  rw [hpart, Compile.outcome_button_some]
  exact map_eq_ok.2 ⟨_, hshown.trans (by rw [h]; rfl), rfl⟩

/-- A notice whose button shows the given dialog. -/
def noticeOf (target : String) : Document :=
  ⟨[("exit_button", .map [("action", .map [("type", .str "Show_Dialog"), ("id", .str target)])])]⟩

/-- A button section that shows a dialog. -/
def showing (target : String) : Value :=
  .map [("action", .map [("type", .str "show_dialog"), ("id", .str target)])]

/-- Two notices, one before the other, that lead to an empty dialog. -/
def chainCatalog : Catalog :=
  ⟨[("menu", noticeOf "middle"), ("middle", noticeOf "leaf"), ("leaf", ⟨[]⟩)]⟩

def leafDialog : Definition :=
  ⟨"leaf", defaultTitle, defaultTitle, true, [], [], .notice ButtonSlot.acknowledge.plainButton⟩

theorem names_noticeOf (target : String) (h : Text.isBlankText target = false) :
    Compile.Names ⟨[("action", .map [("type", .str "Show_Dialog"), ("id", .str target)])]⟩ target :=
  ⟨_, "Show_Dialog", rfl, rfl, by decide, rfl, h⟩

theorem embedded_eq_compiled_leaf : ∃ d,
    outcome ((builtin chainCatalog {}).compile "menu") = .ok d ∧ d.Embeds "leaf" leafDialog ∧
    ¬ chainCatalog.Disables "leaf" ∧ leafDialog.id = "leaf" ∧
    outcome ((builtin chainCatalog {}).dialog [] "leaf") = .ok leafDialog ∧
    outcome ((builtin chainCatalog {}).compile "leaf") = .ok leafDialog := by
  have hleaf : outcome ((builtin chainCatalog {}).dialog ["menu", "middle"] "leaf") =
      .ok leafDialog :=
    (dialog_eq_ok _).2 ⟨by decide, ⟨[]⟩, _, rfl, rfl, rfl⟩
  obtain ⟨middle, _, hmiddle, hmem, haction⟩ :=
    dialog_notice_of_names chainCatalog {} (by decide : "middle" ∉ ["menu"]) rfl (by decide) rfl
      (names_noticeOf "leaf" rfl) rfl hleaf
  obtain ⟨menu, _, hmenu, hmem', haction'⟩ :=
    dialog_notice_of_names chainCatalog {} (by decide : "menu" ∉ []) rfl (by decide) rfl
      (names_noticeOf "middle" rfl) rfl hmiddle
  have hcompile := (compile_eq_ok _).2 ⟨rfl, rfl, hmenu⟩
  have hembeds : menu.Embeds "leaf" leafDialog := .deeper hmem' haction' (.here hmem haction)
  have henabled : ¬ chainCatalog.Disables "leaf" := by
    rw [← Catalog.isEnabled_eq_false rfl]
    decide
  obtain ⟨hid, _, hdialog, hopen, _⟩ := embedded_eq_compiled chainCatalog {} hcompile hembeds
  exact ⟨_, hcompile, hembeds, henabled, hid, hdialog, hopen henabled⟩

end Compiler

end DialogKit
