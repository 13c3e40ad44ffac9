import DialogKit.Engine.Perform
import DialogKit.Proofs.Compile.Embedding

/-!
# The gates of opening a dialog

Opening a dialog passes two gates, which refuse disabled dialogs and, under a strict policy, dialogs
with validation errors. They stand at the entry alone. What a button of an opened dialog shows is
the dialog that its target opens as, if the target passes the gates too; a target that does not is
shown all the same.
-/

namespace DialogKit.Engine

open CompileM

variable {A M H σ : Type}

/-- The dialog passes the gates of opening. -/
structure Admits (e : Engine A M H σ) (id : String) : Prop where
  enabled : e.catalog.isEnabled id = true
  valid : e.settings.validation = .blockOnError →
    ∀ report ∈ e.validateDialog id, report.hasErrors = false

/-- The engine after some more effects. -/
def after (e : Engine A M H σ) (effects : List Effect) : Engine A M H σ :=
  let world := { e.platform.world with effects := e.platform.world.effects ++ effects }
  { e with platform := { e.platform with world } }

/-- Opening a dialog only adds to the log. -/
theorem openDialog_eq (e : Engine A M H σ) (id : String) :
    openDialog id e = some ((e.opening id).result, e.after ((e.opening id).notes.map .log)) := rfl

theorem result_opening {e e' : Engine A M H σ} {id : String}
    {answer : Except EngineFault Definition} (h : openDialog id e = some (answer, e')) :
    (e.opening id).result = answer := by
  rw [openDialog_eq] at h
  exact (Prod.mk.inj (Option.some.inj h)).1

/-- A dialog that is opened first makes no difference to what opening another one comes to. -/
theorem openDialog_later {e e' : Engine A M H σ} {id : String}
    {answer : Except EngineFault Definition} (h : openDialog id e = some (answer, e'))
    (other : String) : ∃ e'', openDialog other e' = some ((e.opening other).result, e'') := by
  rw [openDialog_eq] at h
  obtain ⟨_, rfl⟩ := Prod.mk.inj (Option.some.inj h)
  exact ⟨_, openDialog_eq _ other⟩

theorem blocking?_eq_none {e : Engine A M H σ} {id : String} :
    e.blocking? id = none ↔ (e.settings.validation = .blockOnError →
      ∀ report ∈ e.validateDialog id, report.hasErrors = false) := by
  unfold blocking? Validation.Policy.blocks
  cases e.validateDialog id <;> cases e.settings.validation <;> simp

theorem result_opening_of_blocking {e : Engine A M H σ} {id : String} {found : Validation.Report}
    (h : e.blocking? id = some found) :
    (e.opening id).result = .error (.blocked id (found.count .error)) := by
  unfold opening
  rw [h]
  rfl

theorem result_opening_of_not_blocking {e : Engine A M H σ} {id : String}
    (h : e.blocking? id = none) :
    (e.opening id).result = (outcome (e.compiler.compile id)).mapError .compile := by
  unfold opening outcome
  rw [h, Journal.result_bind]
  cases (e.compiler.compile id).run.result <;> rfl

theorem opening_eq_ok {e : Engine A M H σ} {id : String} {d : Definition} :
    (e.opening id).result = .ok d ↔
      e.blocking? id = none ∧ outcome (e.compiler.compile id) = .ok d := by
  cases h : e.blocking? id with
  | some found => simp [result_opening_of_blocking h]
  | none =>
    rw [result_opening_of_not_blocking h]
    cases outcome (e.compiler.compile id) with
    | error fault => exact ⟨nofun, fun h ↦ nomatch h.2⟩
    | ok definition =>
      constructor
      · intro hok
        obtain rfl := Except.ok.inj hok
        exact ⟨rfl, rfl⟩
      · rintro ⟨_, hok⟩
        obtain rfl := Except.ok.inj hok
        rfl

theorem compiler_of_builtin {e : Engine A M H σ} (h : e.kinds = KindSet.builtin.result) :
    e.compiler = Compiler.builtin e.catalog e.host := by
  rw [compiler, h]
  rfl

/-- What an opened dialog embeds is what its target compiles to, if it is enabled. -/
theorem compile_of_embeds {e : Engine A M H σ} {id target : String} {d dialog : Definition}
    (hkinds : e.kinds = KindSet.builtin.result) (h : (e.opening id).result = .ok d)
    (he : d.Embeds target dialog) :
    dialog.id = target ∧ outcome (e.compiler.compile target) =
      if e.catalog.isEnabled target then .ok dialog else .error (.disabled target) := by
  have hcompile := (opening_eq_ok.1 h).2
  rw [compiler_of_builtin hkinds] at hcompile ⊢
  obtain ⟨_, _, hdialog⟩ := (Compiler.compile_eq_ok _).1 hcompile
  obtain ⟨hcontains, htarget⟩ := Compiler.dialog_of_embeds e.catalog e.host hdialog he
  refine ⟨Compiler.dialog_id e.catalog e.host htarget, ?_⟩
  cases henabled : e.catalog.isEnabled target with
  | true => exact (Compiler.compile_eq_ok _).2 ⟨hcontains, henabled, htarget⟩
  | false => exact Compiler.compile_of_disabled _ hcontains henabled

/-- Behind an opened dialog, a target opens as the dialog that is embedded for it, or is refused at
one of the gates. Performing the button shows the embedded dialog in either case. -/
theorem open_of_embeds {e e' : Engine A M H σ} {id target : String} {d dialog : Definition}
    (hkinds : e.kinds = KindSet.builtin.result) (h : openDialog id e = some (.ok d, e'))
    (he : d.Embeds target dialog) :
    dialog.id = target ∧
    (∃ answer e'', openDialog target e' = some (answer, e'') ∧
      (e.Admits target → answer = .ok dialog) ∧
      (¬ e.Admits target → (∃ errors, answer = .error (.blocked target errors)) ∨
        answer = .error (.compile (.disabled target)))) ∧
    ∀ (b : Behaviour A M H σ) levels viewer payload,
      performAction b levels (.showDialog target dialog) viewer payload e' =
        some (.ok (.shown dialog), e') := by
  obtain ⟨hid, hcompile⟩ := compile_of_embeds hkinds (result_opening h) he
  obtain ⟨e'', hlater⟩ := openDialog_later h target
  refine ⟨hid, ⟨_, e'', hlater, ?_, ?_⟩, fun _ _ _ _ ↦ rfl⟩
  · rintro ⟨henabled, hvalid⟩
    rw [result_opening_of_not_blocking (blocking?_eq_none.2 hvalid), hcompile,
      if_pos henabled]
    rfl
  · intro hrefused
    cases hblocking : e.blocking? target with
    | some found => exact .inl ⟨_, result_opening_of_blocking hblocking⟩
    | none =>
      have hdisabled : ¬ e.catalog.isEnabled target = true := fun henabled ↦
        hrefused ⟨henabled, blocking?_eq_none.1 hblocking⟩
      rw [result_opening_of_not_blocking hblocking, hcompile, if_neg hdisabled]
      exact .inr rfl

theorem nameOf_noticeOf (target : String) :
    Kind.nameOf (Compiler.noticeOf target) = "notice" := by
  have htype : (Compiler.noticeOf target).str? "type" = none := rfl
  unfold Kind.nameOf Document.str
  rw [htype]
  decide

/-- A notice that passes the gates opens, and embeds the dialog that its button shows. -/
theorem opens_noticeOf {e : Engine A M H σ} {id target : String} {dialog : Definition}
    (hkinds : e.kinds = KindSet.builtin.result) (hgates : e.Admits id)
    (hroot : e.catalog.root? id = some (Compiler.noticeOf target))
    (hshown : Text.isBlankText target = false) (hcontains : e.catalog.contains target)
    (h : outcome ((Compiler.builtin e.catalog e.host).dialog [id] target) = .ok dialog) :
    ∃ d e', openDialog id e = some (.ok d, e') ∧ d.Embeds target dialog := by
  obtain ⟨d, button, hd, hmem, haction⟩ := Compiler.dialog_notice_of_names e.catalog e.host
    List.not_mem_nil hroot (nameOf_noticeOf target) rfl (Compiler.names_noticeOf target hshown)
    hcontains h
  have hid : e.catalog.contains id := by
    rw [← Catalog.isSome_root?, hroot]
    rfl
  have hopening : (e.opening id).result = .ok d := by
    rw [opening_eq_ok, compiler_of_builtin hkinds]
    exact ⟨blocking?_eq_none.2 hgates.valid,
      (Compiler.compile_eq_ok _).2 ⟨hid, hgates.enabled, hd⟩⟩
  exact ⟨d, _, by rw [openDialog_eq, hopening], .here hmem haction⟩

/-- An engine for a catalog that refuses dialogs with validation errors. -/
def strict (catalog : Catalog) : Engine Unit Unit Unit Unit :=
  build { settings := { validation := .blockOnError }, catalog } ()

/-- A notice that shows an empty dialog. -/
def pairCatalog : Catalog :=
  ⟨[("menu", Compiler.noticeOf "leaf"), ("leaf", ⟨[]⟩)]⟩

theorem open_of_embeds_leaf : ∃ d e',
    (strict pairCatalog).kinds = KindSet.builtin.result ∧
    openDialog "menu" (strict pairCatalog) = some (.ok d, e') ∧
    d.Embeds "leaf" Compiler.leafDialog ∧ (strict pairCatalog).Admits "leaf" ∧
    ∃ e'', openDialog "leaf" e' = some (.ok Compiler.leafDialog, e'') := by
  have hmenu : (strict pairCatalog).Admits "menu" := ⟨rfl, fun _ ↦ by decide +kernel⟩
  have hleaf : (strict pairCatalog).Admits "leaf" := ⟨rfl, fun _ ↦ by decide +kernel⟩
  have hcompiled : outcome ((Compiler.builtin pairCatalog {}).dialog ["menu"] "leaf") =
      .ok Compiler.leafDialog :=
    (Compiler.dialog_eq_ok _).2 ⟨by decide, ⟨[]⟩, _, rfl, rfl, rfl⟩
  obtain ⟨d, e', hopen, hembeds⟩ := opens_noticeOf rfl hmenu rfl rfl rfl hcompiled
  obtain ⟨_, ⟨answer, e'', hanswer, hok, _⟩, _⟩ := open_of_embeds rfl hopen hembeds
  exact ⟨d, e', rfl, hopen, hembeds, hleaf, e'', hok hleaf ▸ hanswer⟩

/-- Two notices that each show a dialog which may not be opened: a disabled one, and one with an
input without an id. -/
def gatedCatalog : Catalog :=
  ⟨[("menu", Compiler.noticeOf "hidden"), ("hidden", ⟨[("enabled", .bool false)]⟩),
    ("list", Compiler.noticeOf "faulty"), ("faulty", ⟨[("inputs", .list [.map []])]⟩)]⟩

theorem embeds_what_is_refused :
    (∃ d e' hidden e'', openDialog "menu" (strict gatedCatalog) = some (.ok d, e') ∧
      d.Embeds "hidden" hidden ∧
      openDialog "hidden" e' = some (.error (.compile (.disabled "hidden")), e'')) ∧
    ∃ d e' faulty e'', openDialog "list" (strict gatedCatalog) = some (.ok d, e') ∧
      d.Embeds "faulty" faulty ∧
      openDialog "faulty" e' = some (.error (.blocked "faulty" 1), e'') := by
  have hmenu : (strict gatedCatalog).Admits "menu" := ⟨rfl, fun _ ↦ by decide +kernel⟩
  have hlist : (strict gatedCatalog).Admits "list" := ⟨rfl, fun _ ↦ by decide +kernel⟩
  have hhidden : outcome ((Compiler.builtin gatedCatalog {}).dialog ["menu"] "hidden") = .ok _ :=
    (Compiler.dialog_eq_ok _).2 ⟨by decide, ⟨[("enabled", .bool false)]⟩, _, rfl, rfl, rfl⟩
  have hfaulty : outcome ((Compiler.builtin gatedCatalog {}).dialog ["list"] "faulty") = .ok _ :=
    (Compiler.dialog_eq_ok _).2 ⟨by decide, ⟨[("inputs", .list [.map []])]⟩, _, rfl, rfl, rfl⟩
  constructor
  · obtain ⟨d, e', hopen, hembeds⟩ := opens_noticeOf rfl hmenu rfl rfl rfl hhidden
    obtain ⟨e'', hlater⟩ := openDialog_later hopen "hidden"
    have hopening : (strict gatedCatalog).blocking? "hidden" = none :=
      blocking?_eq_none.2 fun _ ↦ by decide +kernel
    rw [result_opening_of_not_blocking hopening, Compiler.compile_of_disabled _ rfl rfl] at hlater
    exact ⟨d, e', _, e'', hopen, hembeds, hlater⟩
  · obtain ⟨d, e', hopen, hembeds⟩ := opens_noticeOf rfl hlist rfl rfl rfl hfaulty
    obtain ⟨e'', hlater⟩ := openDialog_later hopen "faulty"
    obtain ⟨found, hblocking, hcount⟩ : ∃ found, (strict gatedCatalog).blocking? "faulty" =
        some found ∧ found.count .error = 1 := ⟨_, rfl, rfl⟩
    rw [result_opening_of_blocking hblocking, hcount] at hlater
    exact ⟨d, e', _, e'', hopen, hembeds, hlater⟩

end DialogKit.Engine
