import DialogKit.Addon.Basic
import Mathlib.Data.List.Basic
import Mathlib.Data.List.Nodup
import Mathlib.Data.List.Induction
import Mathlib.Data.List.Perm.Basic

/-!
# Stages of addons

The life of an addon is a passage through three places, one after the other: it is being enabled,
then it is listed as enabled, then it has left the list and waits to be shut down. What comes to a
place and goes from it is read off a history of stages. In a lawful history, each stage happens only
where it is allowed; then every object comes to each place at most once and goes from it at most
once, and no two of the objects that are being enabled or are enabled have the same id.
-/

namespace DialogKit

deriving instance DecidableEq for EnabledAddon

/-- What happens to addons. Each offer of an addon is an object of its own, and the number of an
object says how many were offered before it. -/
inductive Stage (A M : Type) where
  /-- The object is offered, and its id is taken. -/
  | refused (n : Nat) (addon : A)
  /-- The object is offered, and its program for enabling is called. -/
  | starting (n : Nat) (addon : A)
  /-- The program for enabling ended well, and the object is listed. -/
  | enabled (n : Nat) (entry : EnabledAddon A M)
  /-- The program for enabling failed. -/
  | failed (n : Nat)
  /-- Objects leave the list, to be shut down in this order. -/
  | taken (ns : List Nat)
  /-- The program for disabling is called. -/
  | stopping (n : Nat)
  /-- The request that took the objects is answered. -/
  | released (ns : List Nat)
  deriving DecidableEq

variable {A M β : Type}

/-! ## Places -/

/-- A place in the life of addons, with what comes to it and goes from it at a stage. -/
structure Flow (A M β : Type) where
  number : β → Nat
  comes : Stage A M → List β
  goes : Stage A M → List Nat

namespace Flow

/-- Objects whose program for enabling runs. -/
def enabling : Flow A M (Nat × A) where
  number := Prod.fst
  comes
    | .starting n addon => [(n, addon)]
    | _ => []
  goes
    | .enabled n _ | .failed n => [n]
    | _ => []

/-- Objects in the list of enabled addons. -/
def listing : Flow A M (Nat × EnabledAddon A M) where
  number := Prod.fst
  comes
    | .enabled n entry => [(n, entry)]
    | _ => []
  goes
    | .taken ns => ns
    | _ => []

/-- Objects that have left the list and are not shut down yet. -/
def leaving : Flow A M Nat where
  number := id
  comes
    | .taken ns => ns
    | _ => []
  goes
    | .stopping n => [n]
    | _ => []

variable (f : Flow A M β) (history : List (Stage A M)) (stage : Stage A M)

/-- All that has come. -/
def come : List β :=
  history.flatMap f.comes

/-- The numbers of all that has gone. -/
def gone : List Nat :=
  history.flatMap f.goes

/-- What has come and not gone, in the order in which it came. -/
def pending : List β :=
  (f.come history).filter fun x ↦ !(f.gone history).contains (f.number x)

/-- Nothing comes twice, and what goes has come and goes once. -/
structure Orderly : Prop where
  come_once : ((f.come history).map f.number).Nodup
  gone_once : (f.gone history).Nodup
  gone_come : ∀ n ∈ f.gone history, n ∈ (f.come history).map f.number

/-- The stage does not concern the place. -/
structure Idle : Prop where
  comes : f.comes stage = []
  goes : f.goes stage = []

/-- What comes at the stage has not come before, and what goes is there to go. -/
structure Admits : Prop where
  come_once : ((f.come history ++ f.comes stage).map f.number).Nodup
  goes_once : (f.goes stage).Nodup
  goes_pending : ∀ n ∈ f.goes stage, n ∈ (f.pending history).map f.number

variable {f history stage}

@[simp]
theorem come_append (history history' : List (Stage A M)) :
    f.come (history ++ history') = f.come history ++ f.come history' :=
  List.flatMap_append

@[simp]
theorem gone_append (history history' : List (Stage A M)) :
    f.gone (history ++ history') = f.gone history ++ f.gone history' :=
  List.flatMap_append

@[simp]
theorem come_singleton (stage : Stage A M) : f.come [stage] = f.comes stage :=
  List.flatMap_singleton ..

@[simp]
theorem gone_singleton (stage : Stage A M) : f.gone [stage] = f.goes stage :=
  List.flatMap_singleton ..

theorem mem_pending {x : β} :
    x ∈ f.pending history ↔ x ∈ f.come history ∧ f.number x ∉ f.gone history := by
  simp [pending]

theorem mem_map_pending {n : Nat} :
    n ∈ (f.pending history).map f.number ↔
      n ∈ (f.come history).map f.number ∧ n ∉ f.gone history := by
  simp only [List.mem_map, mem_pending]
  constructor
  · rintro ⟨x, ⟨hx, hgone⟩, rfl⟩
    exact ⟨⟨x, hx, rfl⟩, hgone⟩
  · rintro ⟨⟨x, hx, rfl⟩, hgone⟩
    exact ⟨x, ⟨hx, hgone⟩, rfl⟩

theorem orderly_nil : f.Orderly [] :=
  ⟨List.nodup_nil, List.nodup_nil, fun _ h ↦ nomatch h⟩

theorem pending_of_idle (h : f.Idle stage) :
    f.pending (history ++ [stage]) = f.pending history := by
  simp [pending, h.comes, h.goes]

namespace Orderly

variable (h : f.Orderly history)

include h

theorem nodup_pending : ((f.pending history).map f.number).Nodup :=
  h.come_once.sublist (List.filter_sublist.map _)

theorem admits_come (hgoes : f.goes stage = []) (honce : ((f.comes stage).map f.number).Nodup)
    (hfresh : ∀ x ∈ f.comes stage, f.number x ∉ (f.come history).map f.number) :
    f.Admits history stage where
  come_once := by
    rw [List.map_append]
    refine h.come_once.append honce fun n hcome hn ↦ ?_
    obtain ⟨x, hx, rfl⟩ := List.mem_map.1 hn
    exact hfresh x hx hcome
  goes_once := hgoes ▸ List.nodup_nil
  goes_pending n hn := by simp [hgoes] at hn

theorem admits_go (hcomes : f.comes stage = []) (honce : (f.goes stage).Nodup)
    (hpending : ∀ n ∈ f.goes stage, n ∈ (f.pending history).map f.number) :
    f.Admits history stage where
  come_once := by simpa [hcomes] using h.come_once
  goes_once := honce
  goes_pending := hpending

theorem admits_idle (hidle : f.Idle stage) : f.Admits history stage :=
  h.admits_go hidle.comes (hidle.goes ▸ List.nodup_nil) (by simp [hidle.goes])

theorem snoc (hstage : f.Admits history stage) : f.Orderly (history ++ [stage]) := by
  have hgoes : ∀ n ∈ f.goes stage, n ∈ (f.come history).map f.number ∧ n ∉ f.gone history :=
    fun n hn ↦ mem_map_pending.1 (hstage.goes_pending n hn)
  constructor
  · simpa using hstage.come_once
  · rw [gone_append, gone_singleton]
    refine h.gone_once.append hstage.goes_once fun n hgone hn ↦ ?_
    exact (hgoes n hn).2 hgone
  · intro n hn
    rw [gone_append, gone_singleton, List.mem_append] at hn
    rw [come_append, List.map_append, List.mem_append]
    rcases hn with hgone | hgoing
    · exact .inl (h.gone_come n hgone)
    · exact .inl (hgoes n hgoing).1

/-- What comes at a stage is not among what had gone before. -/
theorem pending_snoc (hstage : f.Admits history stage) :
    f.pending (history ++ [stage]) =
      (f.pending history ++ f.comes stage).filter fun x ↦
        !(f.goes stage).contains (f.number x) := by
  have hfresh : ∀ x ∈ f.comes stage, f.number x ∉ f.gone history := by
    intro x hx hgone
    have hnodup := hstage.come_once
    rw [List.map_append, List.nodup_append] at hnodup
    exact hnodup.2.2 _ (h.gone_come _ hgone) _ (List.mem_map_of_mem hx) rfl
  have hcomes : (f.comes stage).filter (fun x ↦ !(f.gone history).contains (f.number x)) =
      f.comes stage := List.filter_eq_self.2 fun x hx ↦ by simpa using hfresh x hx
  calc
    _ = ((f.come history ++ f.comes stage).filter
          fun x ↦ !(f.gone history).contains (f.number x)).filter
          fun x ↦ !(f.goes stage).contains (f.number x) := by
      rw [pending, come_append, gone_append, come_singleton, gone_singleton, List.filter_filter]
      refine List.filter_congr fun x _ ↦ ?_
      rw [List.contains_append, Bool.not_or, Bool.and_comm]
    _ = _ := by rw [List.filter_append, hcomes, pending]

theorem pending_come (hstage : f.Admits history stage) (hgoes : f.goes stage = []) :
    f.pending (history ++ [stage]) = f.pending history ++ f.comes stage := by
  simp [h.pending_snoc hstage, hgoes]

theorem pending_go (hstage : f.Admits history stage) (hcomes : f.comes stage = []) :
    f.pending (history ++ [stage]) =
      (f.pending history).filter fun x ↦ !(f.goes stage).contains (f.number x) := by
  rw [h.pending_snoc hstage, hcomes, List.append_nil]

/-- What came last may be the first to go. -/
theorem pending_last (hstage : f.Admits history stage) (hcomes : f.comes stage = [])
    {front : List β} {x : β} (hlast : f.pending history = front ++ [x])
    (hgoes : f.goes stage = [f.number x]) : f.pending (history ++ [stage]) = front := by
  have hnodup := h.nodup_pending
  rw [hlast, List.map_append, List.nodup_append] at hnodup
  have hfront : ∀ y ∈ front, f.number y ≠ f.number x := fun y hy ↦
    hnodup.2.2 _ (List.mem_map_of_mem hy) _ (List.mem_map_of_mem (List.mem_singleton_self x))
  rw [h.pending_go hstage hcomes, hgoes, hlast, List.filter_append,
    List.filter_eq_self.2 fun y hy ↦ by simpa using hfront y hy]
  simp

end Orderly

end Flow

/-! ## Lawful histories -/

namespace Stage

/-- The objects that are offered at a stage. -/
def offers : Stage A M → List Nat
  | .refused n _ | .starting n _ => [n]
  | _ => []

/-- The objects offered in a history. -/
def offered (history : List (Stage A M)) : List Nat :=
  history.flatMap offers

variable (name : A → String)

/-- The ids of the objects that are being enabled, and of those that are enabled. -/
def claimed (history : List (Stage A M)) : List String :=
  (Flow.enabling.pending history).map (fun x ↦ name x.2) ++
    (Flow.listing.pending history).map fun x ↦ name x.2.addon

/-- What may happen after a history. An offer is refused exactly if the id is taken. What was called
last for enabling is the first to end, and only what is listed is taken. -/
def Allowed (past : List (Stage A M)) : Stage A M → Prop
  | .refused n addon => n = (offered past).length ∧ name addon ∈ claimed name past
  | .starting n addon => n = (offered past).length ∧ name addon ∉ claimed name past
  | .enabled n entry => (Flow.enabling.pending past).getLast? = some (n, entry.addon)
  | .failed n => ∃ addon, (Flow.enabling.pending past).getLast? = some (n, addon)
  | .taken ns => ns.Nodup ∧ ∀ n ∈ ns, n ∈ (Flow.listing.pending past).map Prod.fst
  | .stopping n => n ∈ Flow.leaving.pending past
  | .released ns => .taken ns ∈ past ∧ ∀ n ∈ ns, n ∉ Flow.leaving.pending past

/-- Every stage is allowed where it happens. -/
def Lawful (history : List (Stage A M)) : Prop :=
  ∀ before stage after, history = before ++ stage :: after → Allowed name before stage

/-- What holds of the objects in a history. -/
structure Sound (history : List (Stage A M)) : Prop where
  numbered : offered history = List.range (offered history).length
  enabling : Flow.enabling.Orderly history
  listing : Flow.listing.Orderly history
  leaving : Flow.leaving.Orderly history
  /-- What is listed is the addon that was offered. -/
  enabled : ∀ x ∈ Flow.listing.come history, (x.1, x.2.addon) ∈ Flow.enabling.come history
  distinct : (claimed name history).Nodup

variable {name} {history : List (Stage A M)} {stage : Stage A M}

theorem lawful_nil : Lawful name ([] : List (Stage A M)) := by
  intro before stage after h
  simp at h

theorem Lawful.left {history' : List (Stage A M)} (h : Lawful name (history ++ history')) :
    Lawful name history := by
  rintro before stage after rfl
  exact h before stage (after ++ history') (by simp)

theorem Lawful.snoc (h : Lawful name history) (hstage : Allowed name history stage) :
    Lawful name (history ++ [stage]) := by
  intro before stage' after heq
  rcases List.eq_nil_or_concat after with rfl | ⟨front, last, rfl⟩
  · obtain ⟨rfl, hsingle⟩ := List.append_inj' heq rfl
    obtain rfl := List.singleton_inj.1 hsingle
    exact hstage
  · rw [List.concat_eq_append, ← List.cons_append, ← List.append_assoc] at heq
    exact h before stage' front (List.append_inj' heq rfl).1

theorem Lawful.allowed (h : Lawful name (history ++ [stage])) : Allowed name history stage :=
  h history stage [] rfl

@[simp]
theorem offered_append (history history' : List (Stage A M)) :
    offered (history ++ history') = offered history ++ offered history' :=
  List.flatMap_append

@[simp]
theorem offered_singleton (stage : Stage A M) : offered [stage] = stage.offers :=
  List.flatMap_singleton ..

/-- Only what is offered is enabled. -/
theorem enabling_come_sublist (history : List (Stage A M)) :
    ((Flow.enabling.come history).map Prod.fst).Sublist (offered history) := by
  unfold Flow.come offered
  rw [List.map_flatMap]
  induction history with
  | nil => simp
  | cons stage history ih =>
    rw [List.flatMap_cons, List.flatMap_cons]
    refine List.Sublist.append ?_ ih
    cases stage <;> simp [Flow.enabling, offers]

/-- Only what has ended to be enabled is listed. -/
theorem listing_come_sublist (history : List (Stage A M)) :
    ((Flow.listing.come history).map Prod.fst).Sublist
      (Flow.enabling.gone history) := by
  unfold Flow.come Flow.gone
  rw [List.map_flatMap]
  induction history with
  | nil => simp
  | cons stage history ih =>
    rw [List.flatMap_cons, List.flatMap_cons]
    refine List.Sublist.append ?_ ih
    cases stage <;> simp [Flow.enabling, Flow.listing]

/-- What leaves the list waits to be shut down. -/
theorem leaving_come_eq (history : List (Stage A M)) :
    Flow.leaving.come history = Flow.listing.gone history := by
  unfold Flow.come Flow.gone
  refine List.flatMap_congr fun stage _ ↦ ?_
  cases stage <;> rfl

theorem Sound.lt_length_offered (h : Sound name history) {n : Nat} (hn : n ∈ offered history) :
    n < (offered history).length := by
  rw [h.numbered] at hn
  exact List.mem_range.1 hn

theorem sound_nil : Sound name ([] : List (Stage A M)) where
  numbered := rfl
  enabling := Flow.orderly_nil
  listing := Flow.orderly_nil
  leaving := Flow.orderly_nil
  enabled _ h := nomatch h
  distinct := List.nodup_nil

namespace Sound

variable (h : Sound name history)

include h

theorem numbered_snoc (hstage : Allowed name history stage) :
    offered (history ++ [stage]) = List.range (offered (history ++ [stage])).length := by
  have hnumbered := h.numbered
  cases stage with
  | refused n addon | starting n addon =>
    obtain ⟨rfl, _⟩ := hstage
    rw [offered_append, offered_singleton, offers, List.length_append, List.length_singleton,
      List.range_succ, ← hnumbered]
  | enabled | failed | taken | stopping | released => simpa [offers] using hnumbered

theorem admits_enabling (hstage : Allowed name history stage) :
    Flow.enabling.Admits history stage := by
  cases stage with
  | starting n addon =>
    obtain ⟨rfl, _⟩ := hstage
    refine h.enabling.admits_come rfl (List.nodup_singleton _) fun x hx hcome ↦ ?_
    obtain rfl := List.mem_singleton.1 hx
    exact Nat.lt_irrefl _ (h.lt_length_offered ((enabling_come_sublist history).subset hcome))
  | enabled n entry =>
    refine h.enabling.admits_go rfl (List.nodup_singleton _) fun m hm ↦ ?_
    obtain rfl := List.mem_singleton.1 hm
    exact List.mem_map_of_mem (List.mem_of_getLast? hstage)
  | failed n =>
    obtain ⟨addon, hstage⟩ := hstage
    refine h.enabling.admits_go rfl (List.nodup_singleton _) fun m hm ↦ ?_
    obtain rfl := List.mem_singleton.1 hm
    exact List.mem_map_of_mem (List.mem_of_getLast? hstage)
  | refused | taken | stopping | released => exact h.enabling.admits_idle ⟨rfl, rfl⟩

/-- What is still being enabled has not been listed. -/
theorem admits_listing (hstage : Allowed name history stage) :
    Flow.listing.Admits history stage := by
  cases stage with
  | enabled n entry =>
    refine h.listing.admits_come rfl (List.nodup_singleton _) fun x hx hcome ↦ ?_
    obtain rfl := List.mem_singleton.1 hx
    have hpending := Flow.mem_pending.1 (List.mem_of_getLast? hstage)
    exact hpending.2 ((listing_come_sublist history).subset hcome)
  | taken ns => exact h.listing.admits_go rfl hstage.1 hstage.2
  | refused | starting | failed | stopping | released => exact h.listing.admits_idle ⟨rfl, rfl⟩

/-- What is still listed has not left the list. -/
theorem admits_leaving (hstage : Allowed name history stage) :
    Flow.leaving.Admits history stage := by
  cases stage with
  | taken ns =>
    have hid : ∀ ns : List Nat, ns.map (Flow.leaving : Flow A M Nat).number = ns := List.map_id
    refine h.leaving.admits_come rfl ((hid ns).symm ▸ hstage.1) fun n hn hcome ↦ ?_
    rw [hid, leaving_come_eq] at hcome
    exact (Flow.mem_map_pending.1 (hstage.2 n hn)).2 hcome
  | stopping n =>
    refine h.leaving.admits_go rfl (List.nodup_singleton _) fun m hm ↦ ?_
    obtain rfl := List.mem_singleton.1 hm
    exact List.mem_map_of_mem hstage
  | refused | starting | enabled | failed | released => exact h.leaving.admits_idle ⟨rfl, rfl⟩

theorem distinct_snoc (hstage : Allowed name history stage) :
    (claimed name (history ++ [stage])).Nodup := by
  have hdistinct := h.distinct
  have henabling := h.admits_enabling hstage
  have hlisting := h.admits_listing hstage
  unfold claimed at hdistinct ⊢
  cases stage with
  | starting n addon =>
    have hfree : name addon ∉ claimed name history := hstage.2
    rw [h.enabling.pending_come henabling rfl, Flow.pending_of_idle ⟨rfl, rfl⟩, List.map_append,
      List.append_assoc]
    exact (List.perm_middle.nodup_iff).2 (List.nodup_cons.2 ⟨hfree, hdistinct⟩)
  | enabled n entry =>
    obtain ⟨front, hlast⟩ := List.getLast?_eq_some_iff.1 hstage
    rw [h.enabling.pending_last henabling rfl hlast rfl, h.listing.pending_come hlisting rfl]
    -- The id of the object moves from the one list to the end of the other.
    rw [hlast, List.map_append, List.append_assoc] at hdistinct
    rw [List.map_append]
    exact ((List.perm_append_comm.append_left _).nodup_iff).1 hdistinct
  | failed n =>
    obtain ⟨addon, hlast⟩ := hstage
    obtain ⟨front, hlast⟩ := List.getLast?_eq_some_iff.1 hlast
    rw [h.enabling.pending_last henabling rfl hlast rfl, Flow.pending_of_idle ⟨rfl, rfl⟩]
    rw [hlast] at hdistinct
    exact hdistinct.sublist (((List.sublist_append_left front _).map _).append_right _)
  | taken ns =>
    rw [h.listing.pending_go hlisting rfl, Flow.pending_of_idle ⟨rfl, rfl⟩]
    exact hdistinct.sublist ((List.filter_sublist.map _).append_left _)
  | refused | stopping | released =>
    rwa [Flow.pending_of_idle ⟨rfl, rfl⟩, Flow.pending_of_idle ⟨rfl, rfl⟩]

theorem enabled_snoc (hstage : Allowed name history stage) :
    ∀ x ∈ Flow.listing.come (history ++ [stage]),
      (x.1, x.2.addon) ∈ Flow.enabling.come (history ++ [stage]) := by
  intro x hx
  rw [Flow.come_append, Flow.come_singleton, List.mem_append] at hx
  rw [Flow.come_append]
  refine List.mem_append_left _ ?_
  rcases hx with hbefore | hnow
  · exact h.enabled x hbefore
  · cases stage with
    | enabled n entry =>
      obtain rfl := List.mem_singleton.1 hnow
      exact (Flow.mem_pending.1 (List.mem_of_getLast? hstage)).1
    | refused | starting | failed | taken | stopping | released => exact nomatch hnow

/-- One stage keeps everything. -/
theorem snoc (hstage : Allowed name history stage) : Sound name (history ++ [stage]) where
  numbered := h.numbered_snoc hstage
  enabling := h.enabling.snoc (h.admits_enabling hstage)
  listing := h.listing.snoc (h.admits_listing hstage)
  leaving := h.leaving.snoc (h.admits_leaving hstage)
  enabled := h.enabled_snoc hstage
  distinct := h.distinct_snoc hstage

end Sound

/-- Lawful histories are sound, stage by stage. -/
theorem Lawful.sound (h : Lawful name history) : Sound name history := by
  induction history using List.reverseRecOn with
  | nil => exact sound_nil
  | append_singleton history stage ih => exact (ih h.left).snoc h.allowed

end Stage

end DialogKit
