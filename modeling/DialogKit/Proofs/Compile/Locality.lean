import DialogKit.Proofs.Compile.Embedding
import DialogKit.Proofs.Compile.Parallel
import Mathlib.Data.Set.Insert

/-!
# What a compilation reads of the catalog

Compiling a dialog reads the catalog at the ids that buttons name on the way, and nowhere else. So a
set of ids that is closed under naming is compiled alike over all catalogs that have the same
documents for it. It does not matter what else a catalog has, nor the order in which it has it.

An id that is named need not be one of the catalog. It still belongs to the set, since a catalog
that has it would show it.
-/

namespace DialogKit

open CompileM

namespace Catalog

/-- The catalogs have the same documents for the ids, or none on both sides. -/
def AgreeOn (catalog catalog' : Catalog) (ids : Set String) : Prop :=
  ∀ id ∈ ids, catalog.get? id = catalog'.get? id

/-- A button that the kind of `a` reads names the dialog `b`, whether or not the catalog has it. -/
def Refers (catalog : Catalog) (a b : String) : Prop :=
  ∃ root part, catalog.root? a = some root ∧ Kind.ReadsButton root part ∧ Compile.Names part b

/-- The dialogs of the set only refer to ids of the set. -/
def Closes (catalog : Catalog) (ids : Set String) : Prop :=
  ∀ a ∈ ids, ∀ b, catalog.Refers a b → b ∈ ids

theorem closes_reachable (catalog : Catalog) (id : String) :
    catalog.Closes {b | Relation.ReflTransGen catalog.Refers id b} :=
  fun _ ha _ hrefers ↦ ha.tail hrefers

section

variable {catalog catalog' : Catalog} {ids : Set String} {id : String}

theorem AgreeOn.root? (h : catalog.AgreeOn catalog' ids) (hid : id ∈ ids) :
    catalog.root? id = catalog'.root? id := by
  unfold Catalog.root?
  rw [h id hid]

theorem AgreeOn.contains (h : catalog.AgreeOn catalog' ids) (hid : id ∈ ids) :
    catalog.contains id = catalog'.contains id := by
  unfold Catalog.contains
  rw [h id hid]

theorem agreeOn_insert {other : String} (hother : other ∉ ids) (document : Document) :
    catalog.AgreeOn (catalog.insert other document) ids := by
  intro id hid
  have hne : other ≠ id := fun heq ↦ hother (heq ▸ hid)
  exact (Entries.get?_insert_of_ne hne document catalog.dialogs).symm

theorem agreeOn_remove {other : String} (hother : other ∉ ids) :
    catalog.AgreeOn (catalog.remove other) ids := by
  intro id hid
  have hne : other ≠ id := fun heq ↦ hother (heq ▸ hid)
  exact (Entries.get?_erase_of_ne hne catalog.dialogs).symm

theorem agreeOn_perm (hkeys : catalog.order.Nodup)
    (hperm : catalog.dialogs.Perm catalog'.dialogs) : catalog.AgreeOn catalog' ids :=
  fun id _ ↦ (Entries.get?_eq_of_perm hperm hkeys id).symm

end

end Catalog

theorem Layout.Made.eq {layout layout' : Layout} (h : layout.Made Eq layout') :
    layout = layout' := by
  cases h with
  | confirmation hconfirm hcancel => rw [hconfirm, hcancel]
  | notice hexit => rw [hexit]
  | multiAction columns _ hbuttons hexit =>
    rw [List.forall₂_eq_eq_eq] at hbuttons
    cases hexit with
    | some heq => rw [hbuttons, heq]
    | none => rw [hbuttons]

/-- A button is the same over two catalogs that have the same of what it names, if what they have is
compiled alike. -/
theorem Compile.outcome_button_congr {catalog catalog' : Catalog}
    {compileTarget compileTarget' : String → CompileM Definition} {part : Option Document}
    (hcontains : ∀ section_ ∈ part, ∀ target, Names section_ target →
      catalog.contains target = catalog'.contains target)
    (htarget : ∀ section_ ∈ part, ∀ target, Names section_ target →
      outcome (compileTarget target) = outcome (compileTarget' target))
    (host : Host) (slot : ButtonSlot) :
    outcome (button catalog host compileTarget part slot) =
      outcome (button catalog' host compileTarget' part slot) := by
  cases part with
  | none => rfl
  | some part =>
    have hcontains := hcontains part rfl
    rw [outcome_button_some, outcome_button_some]
    congr 1
    rcases outcome_sectionAction_cases catalog part with
      ⟨target, hnames, hknown, hshown⟩ | ⟨hnone, hplain⟩
    · have hknown' : catalog'.contains target := hcontains target hnames ▸ hknown
      rw [hshown, outcome_sectionAction_of_names hnames hknown', htarget part rfl target hnames]
    · have hnone' : ∀ target, Names part target → catalog'.contains target = false :=
        fun target hnames ↦ hcontains target hnames ▸ hnone target hnames
      rw [hplain, outcome_sectionAction_of_not_names hnone']

namespace Compiler

variable {catalog catalog' : Catalog} {ids : Set String}

/-- A dialog of the set is compiled alike over the two catalogs, since every target that it names is
in the set again. -/
theorem outcome_compile_congr (hclosed : catalog.Closes ids)
    (hagree : catalog.AgreeOn catalog' ids) (host : Host) {id : String} (hid : id ∈ ids) :
    outcome ((builtin catalog host).compile id) = outcome ((builtin catalog' host).compile id) := by
  apply Agree.iff_eq.1
  apply agree_compile (hagree.root? hid)
  apply agree_dialog (R := Eq) (fun _ hmem ↦ hagree.root? hmem) (fun _ _ ↦ rfl) _ _ [] hid
  · intro a ha root hroot compileTarget compileTarget' htarget part slot hpart
    have hnamed : ∀ section_ ∈ part, ∀ target, Compile.Names section_ target → target ∈ ids := by
      intro section_ hsection target hnames
      exact hclosed a ha target ⟨root, section_, hroot, hpart section_ hsection, hnames⟩
    apply Agree.iff_eq.2
    apply Compile.outcome_button_congr
    · intro section_ hsection target hnames
      exact hagree.contains (hnamed section_ hsection target hnames)
    · intro section_ hsection target hnames
      exact Agree.iff_eq.1 (htarget target (hnamed section_ hsection target hnames))
  · intro a root layout layout' hmade
    rw [hmade.eq]
    rfl

/-- The smallest such set: what a dialog is compiled to only depends on the documents that naming
leads to from it. -/
theorem outcome_compile_of_reachable {id : String}
    (hagree : catalog.AgreeOn catalog' {b | Relation.ReflTransGen catalog.Refers id b})
    (host : Host) :
    outcome ((builtin catalog host).compile id) = outcome ((builtin catalog' host).compile id) :=
  outcome_compile_congr (catalog.closes_reachable id) hagree host .refl

/-- What a dialog of a closed set is compiled to only depends on the documents of the set: faults
and the chains of cycles included, it is the same over every catalog that has these documents. So
other dialogs may be added, edited, removed and put in another order. -/
theorem compile_local (hclosed : catalog.Closes ids) (host : Host) {id : String} (hid : id ∈ ids) :
    let result (catalog : Catalog) := outcome ((builtin catalog host).compile id)
    (∀ catalog', catalog.AgreeOn catalog' ids → result catalog' = result catalog) ∧
    (∀ other ∉ ids, ∀ document, result (catalog.insert other document) = result catalog) ∧
    (∀ other ∉ ids, result (catalog.remove other) = result catalog) ∧
    ∀ dialogs, catalog.order.Nodup → catalog.dialogs.Perm dialogs →
      result ⟨dialogs⟩ = result catalog := by
  intro result
  have hlocal : ∀ catalog', catalog.AgreeOn catalog' ids → result catalog' = result catalog := by
    intro catalog' hagree
    exact (outcome_compile_congr hclosed hagree host hid).symm
  refine ⟨hlocal, ?_, ?_, ?_⟩
  · intro other hother document
    exact hlocal _ (Catalog.agreeOn_insert hother document)
  · intro other hother
    exact hlocal _ (Catalog.agreeOn_remove hother)
  · intro dialogs hkeys hperm
    exact hlocal _ (Catalog.agreeOn_perm hkeys hperm)

/-- A notice refers to the dialog that its button shows, and to no other. -/
theorem eq_of_reads_noticeOf {target other : String} {part : Document}
    (htarget : Text.isBlankText target = false) (hpart : Kind.ReadsButton (noticeOf target) part)
    (hnames : Compile.Names part other) : other = target := by
  have hkind : Kind.nameOf (noticeOf target) = "notice" := by
    change Text.lower (Text.lower "notice") = "notice"
    decide
  rcases hpart with ⟨_, hexit⟩ | ⟨hgrid, _, _⟩ | ⟨hgrid, _, _⟩ | ⟨hgrid, _, _, _⟩
  · obtain ⟨entries⟩ := part
    have hentries := Value.map.inj (Option.some.inj hexit)
    subst hentries
    exact hnames.unique (names_noticeOf target htarget)
  all_goals simp [hkind] at hgrid

theorem closes_chainCatalog : chainCatalog.Closes {"middle", "leaf"} := by
  rintro a ha b ⟨root, part, hroot, hpart, hnames⟩
  rcases ha with rfl | rfl
  · obtain rfl : noticeOf "leaf" = root := Option.some.inj hroot
    exact .inr (eq_of_reads_noticeOf rfl hpart hnames)
  · obtain rfl : (⟨[]⟩ : Document) = root := Option.some.inj hroot
    have hempty : (⟨[]⟩ : Document).value? "exit_button" = none := rfl
    have hkind : Kind.nameOf ⟨[]⟩ = "notice" := by decide
    rcases hpart with ⟨_, hexit⟩ | ⟨hgrid, _, _⟩ | ⟨hgrid, _, _⟩ | ⟨hgrid, _, _, _⟩
    · simp [hempty] at hexit
    all_goals simp [hkind] at hgrid

theorem compile_local_middle :
    let result (catalog : Catalog) := outcome ((builtin catalog {}).compile "middle")
    chainCatalog.Closes {"middle", "leaf"} ∧ chainCatalog.order.Nodup ∧
    result (chainCatalog.insert "menu" (noticeOf "menu")) = result chainCatalog ∧
    result (chainCatalog.remove "menu") = result chainCatalog ∧
    result ⟨chainCatalog.dialogs.reverse⟩ = result chainCatalog := by
  have hmenu : "menu" ∉ ({"middle", "leaf"} : Set String) := by simp
  have hkeys : chainCatalog.order.Nodup := by decide
  obtain ⟨_, hinsert, hremove, hperm⟩ := compile_local closes_chainCatalog {} (.inl rfl)
  exact ⟨closes_chainCatalog, hkeys, hinsert "menu" hmenu _, hremove "menu" hmenu,
    hperm _ hkeys (List.reverse_perm _).symm⟩

end Compiler

end DialogKit
