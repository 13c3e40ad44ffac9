import DialogKit.Proofs.Addon.Courses

/-!
# The life of addons

However addons enable and disable each other while they are enabled and disabled themselves, each
object is enabled at most once and shut down at most once, in this order: a stage of the history is
one call of the program of an addon, and the run is what follows from these calls by the rules.
Wherever a program looks at the platform, the ids that are taken are distinct, the list of enabled
addons is the one that the history so far tells, and every way to manage addons does what it says.
-/

namespace DialogKit

namespace Stage

variable {A M : Type} {name : A → String} {history : List (Stage A M)}

/-- What holds of the objects at every place of a history. -/
structure Ordered (name : A → String) (history : List (Stage A M)) : Prop where
  /-- The objects are numbered in the order in which they are offered. -/
  numbered : offered history = List.range (offered history).length
  /-- The program for enabling is called at most once for an object. -/
  enabling_once : ((Flow.enabling.come history).map Prod.fst).Nodup
  /-- It is not called for an object that is refused. -/
  refused : ∀ n addon, .refused n addon ∈ history →
    n ∉ (Flow.enabling.come history).map Prod.fst
  /-- An object is listed at most once, and the program for enabling was called for it. -/
  listed_once : ((Flow.listing.come history).map Prod.fst).Nodup
  listed : ∀ x ∈ Flow.listing.come history, (x.1, x.2.addon) ∈ Flow.enabling.come history
  /-- The program for disabling is called at most once for an object. -/
  disabling_once : (Flow.leaving.gone history).Nodup
  /-- It is called only for an object that was listed and has left the list. -/
  disabling : ∀ n ∈ Flow.leaving.gone history,
    n ∈ (Flow.listing.come history).map Prod.fst ∧ n ∈ Flow.listing.gone history
  /-- It has been called for all that a request took when the request is answered. -/
  released : ∀ ns, .released ns ∈ history →
    .taken ns ∈ history ∧ ∀ n ∈ ns, (Flow.leaving.gone history).count n = 1
  /-- The ids of the objects that are being enabled or are enabled differ. -/
  distinct : (claimed name history).Nodup

theorem Lawful.not_starting_of_refused (h : Lawful name history) {n : Nat} {addon : A}
    (hrefused : .refused n addon ∈ history) : n ∉ (Flow.enabling.come history).map Prod.fst := by
  have hnodup : (offered history).Nodup := h.sound.numbered ▸ List.nodup_range
  obtain ⟨before, after, rfl⟩ := List.append_of_mem hrefused
  have hoffered : offered (before ++ .refused n addon :: after) =
      offered before ++ n :: offered after := offered_append ..
  have hcome : (Flow.enabling.come (before ++ .refused n addon :: after)).map Prod.fst =
      (Flow.enabling.come before).map Prod.fst ++ (Flow.enabling.come after).map Prod.fst := by
    rw [Flow.come_append, List.map_append]
    rfl
  rw [hoffered, List.perm_middle.nodup_iff, List.nodup_cons] at hnodup
  rw [hcome]
  intro hmem
  refine hnodup.1 (List.mem_append.2 ((List.mem_append.1 hmem).imp ?_ ?_))
  · exact fun hbefore ↦ (enabling_come_sublist before).subset hbefore
  · exact fun hafter ↦ (enabling_come_sublist after).subset hafter

theorem Lawful.released (h : Lawful name history) {ns : List Nat}
    (hreleased : .released ns ∈ history) :
    .taken ns ∈ history ∧ ∀ n ∈ ns, (Flow.leaving.gone history).count n = 1 := by
  have hsound := h.sound
  obtain ⟨before, after, rfl⟩ := List.append_of_mem hreleased
  obtain ⟨htaken, hgone⟩ := h before _ after rfl
  refine ⟨List.mem_append_left _ htaken, fun n hn ↦ ?_⟩
  have hcome : n ∈ Flow.leaving.come before := List.mem_flatMap.2 ⟨_, htaken, hn⟩
  have hstopped : n ∈ Flow.leaving.gone before := by
    by_contra hnot
    exact hgone n hn (Flow.mem_pending.2 ⟨hcome, hnot⟩)
  refine List.count_eq_one_of_mem hsound.leaving.gone_once ?_
  rw [Flow.gone_append]
  exact List.mem_append_left _ hstopped

theorem Lawful.ordered (h : Lawful name history) : Ordered name history where
  numbered := h.sound.numbered
  enabling_once := h.sound.enabling.come_once
  refused _ _ := h.not_starting_of_refused
  listed_once := h.sound.listing.come_once
  listed := h.sound.enabled
  disabling_once := h.sound.leaving.gone_once
  disabling n hn := by
    have htaken : n ∈ Flow.listing.gone history := by
      have hcome := h.sound.leaving.gone_come n hn
      rwa [leaving_come_eq, Flow.leaving, List.map_id] at hcome
    exact ⟨h.sound.listing.gone_come n htaken, htaken⟩
  released _ := h.released
  distinct := h.sound.distinct

end Stage

namespace Platform

variable {A M H σ α : Type} {kit : AddonKit A M H σ} {handling : Handling H σ}
  {levels : Nat} {past : List (Stage A M)} {p q : Platform A M H σ}

theorem isTaken_iff {id : String} :
    isTaken kit p id = true ↔ id ∈ p.starting ∨ ∃ entry ∈ p.enabled, kit.id entry.addon = id := by
  simp [isTaken]

/-- The ways to manage addons do what they say on a platform, however many levels they take. -/
structure Managed (kit : AddonKit A M H σ) (handling : Handling H σ) (p : Platform A M H σ) :
    Prop where
  /-- The ids of the addons that are being enabled or are enabled differ. -/
  distinct : (p.starting ++ p.enabled.map fun entry ↦ kit.id entry.addon).Nodup
  /-- An offer is refused exactly if the id belongs to an addon that is enabled or being enabled. -/
  refused_iff : ∀ levels addon result q,
    (management kit handling levels).enable addon p = some (result, q) →
    (result = .ok false ↔ kit.id addon ∈ p.starting ∨
      ∃ entry ∈ p.enabled, kit.id entry.addon = kit.id addon)
  /-- A taken id is refused at once: that is reported, and nothing else happens. -/
  refuses : ∀ levels addon, isTaken kit p (kit.id addon) = true →
    (management kit handling (levels + 1)).enable addon p =
      some (.ok false, p.after [.log (skipEvent kit addon)])
  /-- For a free id, the program of the addon is run once. -/
  enables : ∀ levels addon result q, isTaken kit p (kit.id addon) = false →
    ((management kit handling (levels + 1)).enable addon p = some (result, q) ↔
      ∃ ended r, (kit.onEnable addon ⟨kit.id addon, p.apiVersion⟩).run
          (service kit handling levels) (p.reserve (kit.id addon)) = some (ended, r) ∧
        reply kit addon ended = result ∧ conclude kit r addon ended = q)
  /-- If the program fails, the id is free again. -/
  fails : ∀ levels addon fault q,
    (management kit handling (levels + 1)).enable addon p = some (.error fault, q) →
    isTaken kit p (kit.id addon) = false ∧ isTaken kit q (kit.id addon) = false
  /-- There may be nothing to disable: that is reported, and nothing else happens. -/
  misses : ∀ levels id, (∀ entry ∈ p.enabled, kit.id entry.addon ≠ id) →
    (management kit handling (levels + 1)).disable id p =
      some (.ok false, p.after [.log (missEvent id)])
  /-- The addon with the id leaves the list, and then its program is run once. -/
  disables : ∀ levels entry result q, entry ∈ p.enabled →
    ((management kit handling (levels + 1)).disable (kit.id entry.addon) p = some (result, q) ↔
      ∃ ended r, (kit.onDisable entry.addon entry.memory).run (service kit handling levels)
          { p with
            enabled := p.enabled.filter fun other ↦ kit.id other.addon != kit.id entry.addon } =
            some (ended, r) ∧
        reply kit entry.addon ended = result ∧
        r.after [.log (stopEvent kit entry.addon ended)] = q)
  /-- Every addon leaves the list, and the programs are run once each, in the reverse of its order;
  those that end well are counted. -/
  disablesAll : ∀ levels count q,
    (management kit handling (levels + 1)).disableAll p = some (count, q) ↔
      ∃ stops : List (Stop A M H σ),
        Stops kit (Program.run (service kit handling levels)) { p with enabled := [] } stops q ∧
        stops.map Stop.entry = p.enabled.reverse ∧
        stops.countP (fun stop ↦ stop.ended.isOk) = count
  /-- When a request is answered, the same ids are reserved as before. -/
  restores : ∀ levels (request : AddonRequest A H σ) answer q,
    service kit handling levels request p = some (answer, q) → q.starting = p.starting

/-- What holds when a request is answered that was made after the first history. -/
structure Answered (kit : AddonKit A M H σ) (past past' : List (Stage A M))
    (q : Platform A M H σ) : Prop where
  mirrors : Mirrors kit past' q
  ordered : Stage.Ordered kit.id past'
  /-- The ids that the request reserved are given back. -/
  enabling : Flow.enabling.pending past' = Flow.enabling.pending past
  /-- The program for disabling has been called for all that was taken, except for what was to be
  shut down already when the request was made. -/
  shutDown : ∀ n ∈ Flow.leaving.come past',
    n ∈ Flow.leaving.pending past ∨ (Flow.leaving.gone past').count n = 1

theorem Tells.answered (h : Tells kit past p) {request : AddonRequest A H σ}
    {stages : List (Stage A M)} {answer : request.Answer}
    (hanswer : Answers kit handling levels request past p stages answer q) :
    Answered kit past (past ++ stages) q := by
  obtain ⟨hserve, rfl⟩ := (describes_answers kit handling levels request _ _ h _ _ _).1 hanswer
  obtain ⟨hlawful, hends⟩ := tracks_service kit handling levels request past p h.lawful h.mirrors
    List.nodup_nil (by simp)
  have hsettles := hends answer q hserve
  refine ⟨hsettles.mirrors, hlawful.ordered, hsettles.enabling, fun n hcome ↦ ?_⟩
  by_cases hgone : n ∈ Flow.leaving.gone (past ++ requestStages kit handling levels request past p)
  · exact .inr (List.count_eq_one_of_mem hlawful.sound.leaving.gone_once hgone)
  · have hpending := Flow.mem_pending.2 ⟨hcome, hgone⟩
    rw [hsettles.leaving] at hpending
    exact .inl (List.mem_filter.1 hpending).1

/-- What is being enabled is as before when a computation has ended. -/
theorem Tracks.starting_eq {x : PlatformM A M H σ α} {stages : Chronicle A M H σ} {a : α}
    (hx : Tracks kit [] x stages) (h : Tells kit past p) (ha : x p = some (a, q)) :
    q.starting = p.starting := by
  obtain ⟨_, hends⟩ := hx past p h.lawful h.mirrors List.nodup_nil (by simp)
  have hsettles := hends a q ha
  rw [hsettles.mirrors.starting, hsettles.enabling, h.mirrors.starting]

theorem Tells.distinct (h : Tells kit past p) :
    (p.starting ++ p.enabled.map fun entry ↦ kit.id entry.addon).Nodup := by
  have hdistinct := h.lawful.sound.distinct
  rw [h.mirrors.starting, h.mirrors.enabled, List.map_map]
  exact hdistinct

theorem eq_ok_false_iff
    {run : AddonProgram A H σ (Except String M) → PlatformM A M H σ (Except String M)} {addon : A}
    {result : Except AddonFault Bool} (h : enableWith kit run addon p = some (result, q)) :
    result = .ok false ↔ isTaken kit p (kit.id addon) = true := by
  cases htaken : isTaken kit p (kit.id addon) with
  | true =>
    rw [enableWith_of_isTaken run htaken] at h
    cases h
    simp
  | false =>
    obtain ⟨ended, _, _, rfl, _⟩ := (enableWith_eq_some htaken).1 h
    simpa using reply_ne_ok_false addon ended

/-- An addon whose program fails has not been listed meanwhile, and neither has another one with
its id. -/
theorem Tells.isTaken_of_failed (h : Tells kit past p) {addon : A} {fault : AddonFault}
    (hfree : isTaken kit p (kit.id addon) = false)
    (hfailed : (management kit handling (levels + 1)).enable addon p = some (.error fault, q)) :
    isTaken kit q (kit.id addon) = false := by
  have hstarting : q.starting = p.starting :=
    (tracks_service kit handling (levels + 1) (.enable addon)).starting_eq h hfailed
  obtain ⟨ended, r, hrun, hreply, rfl⟩ := (enableWith_eq_some hfree).1 hfailed
  obtain ⟨reason, rfl, _⟩ := reply_eq_error_iff.1 hreply
  have htracks := tracks_stagesOf kit handling levels
    (kit.onEnable addon ⟨kit.id addon, p.apiVersion⟩)
  have hreserved : r.starting = p.starting ++ [kit.id addon] :=
    htracks.starting_eq (h.starting hfree) hrun
  -- the id was still reserved when the program ended, so nothing listed has it
  have hdistinct := (htracks.tells_after (h.starting hfree) hrun).distinct
  rw [hreserved, List.append_assoc, List.singleton_append, List.perm_middle.nodup_iff,
    List.nodup_cons] at hdistinct
  rw [← Bool.not_eq_true, isTaken_iff, hstarting]
  intro htaken
  refine hdistinct.1 (List.mem_append.2 (htaken.imp_right ?_))
  rintro ⟨entry, hentry, hid⟩
  exact hid ▸ List.mem_map_of_mem hentry

/-- With distinct ids, the first entry with an id is the only one. -/
theorem find?_enabled_of_mem (hdistinct : (p.enabled.map fun entry ↦ kit.id entry.addon).Nodup)
    {entry : EnabledAddon A M} (hentry : entry ∈ p.enabled) :
    p.enabled.find? (fun other ↦ kit.id other.addon == kit.id entry.addon) = some entry ∧
      (withdraw kit p (kit.id entry.addon)).enabled =
        p.enabled.filter fun other ↦ kit.id other.addon != kit.id entry.addon := by
  have hfind : p.enabled.find? (fun other ↦ kit.id other.addon == kit.id entry.addon) =
      some entry := by
    cases hfound : p.enabled.find? fun other ↦ kit.id other.addon == kit.id entry.addon with
    | none => simpa using List.find?_eq_none.1 hfound entry hentry
    | some other =>
      have hid : kit.id other.addon = kit.id entry.addon := by simpa using List.find?_some hfound
      rw [List.inj_on_of_nodup_map hdistinct (List.mem_of_find?_eq_some hfound) hentry hid]
  exact ⟨hfind, eraseP_eq_filter hdistinct hfind⟩

theorem Tells.managed (h : Tells kit past p) (handling : Handling H σ) :
    Managed kit handling p where
  distinct := h.distinct
  refused_iff levels addon result q hx := by
    cases levels with
    | zero => exact nomatch hx
    | succ levels => exact (eq_ok_false_iff hx).trans isTaken_iff
  refuses _ _ htaken := enableWith_of_isTaken _ htaken
  enables _ _ _ _ hfree := enableWith_eq_some hfree
  fails levels addon fault q hfailed := by
    have hfree : isTaken kit p (kit.id addon) = false := by
      rw [← Bool.not_eq_true, ← eq_ok_false_iff hfailed]
      exact nofun
    exact ⟨hfree, h.isTaken_of_failed hfree hfailed⟩
  misses levels id hnone := by
    refine disableWith_of_none _ (List.find?_eq_none.2 fun entry hentry ↦ ?_)
    simpa using hnone entry hentry
  disables levels entry result q hentry := by
    obtain ⟨hfind, hwithdraw⟩ :=
      find?_enabled_of_mem (List.nodup_append.1 h.distinct).2.1 hentry
    rw [← hwithdraw]
    exact disableWith_eq_some hfind
  disablesAll _ _ _ := disableAll_eq_some
  restores levels request _ _ hserve :=
    (tracks_service kit handling levels request).starting_eq h hserve

/-- Whatever a program and the addons that it enables and disables do, each stage of its history is
allowed where it happens, and the objects are called in order. The run is what the rules derive, in
which each call of a program for enabling or disabling is a stage of the history and each such stage
a call. Every platform on the way lies at a place of the history, which tells its lists, and is
managed as it should be: a request that is answered has given back what it reserved and shut down
what it took. Where the program ends, nothing is being enabled any more, and all that has left the
list has been shut down. -/
theorem lifecycle_of_run (kit : AddonKit A M H σ) (handling : Handling H σ) (levels : Nat)
    (program : AddonProgram A H σ α) (world : World H σ) (kinds : KindSet) (apiVersion : String) :
    let start : Platform A M H σ := { world, kinds, apiVersion }
    let history := stagesOf kit handling levels program [] start
    (∀ before stage after, history = before ++ stage :: after →
      Stage.Allowed kit.id before stage) ∧
    (∀ before, before <+: history → Stage.Ordered kit.id before) ∧
    (∀ stages a p, Runs kit handling levels program [] start stages a p ↔
      program.run (service kit handling levels) start = some (a, p) ∧ history = stages) ∧
    (∀ p, Visits kit handling levels program start p ↔
      ∃ before, Comes kit handling levels program [] start before p) ∧
    (∀ before p, Comes kit handling levels program [] start before p →
      before <+: history ∧ Mirrors kit before p ∧ Managed kit handling p ∧
      ∀ levels request stages answer q,
        (Answers kit handling levels request before p stages answer q ↔
          service kit handling levels request p = some (answer, q) ∧
            requestStages kit handling levels request before p = stages) ∧
        (Answers kit handling levels request before p stages answer q →
          Answered kit before (before ++ stages) q)) ∧
    ∀ a p, program.run (service kit handling levels) start = some (a, p) →
      Comes kit handling levels program [] start history p ∧ Mirrors kit history p ∧
        Flow.enabling.pending history = [] ∧ Flow.leaving.pending history = [] := by
  intro start history
  have hstart : Tells kit [] start := ⟨Stage.lawful_nil, rfl, rfl⟩
  have hruns := describes_runs kit handling levels program [] start hstart
  obtain ⟨hlawful, hends⟩ := tracks_stagesOf kit handling levels program [] start
    Stage.lawful_nil hstart.mirrors List.nodup_nil (by simp)
  rw [List.nil_append] at hlawful hends
  refine ⟨hlawful, ?_, hruns, fun p ↦ ?_, fun before p hcomes ↦ ?_, fun a p hrun ↦ ?_⟩
  · rintro before ⟨after, heq⟩
    have hwhole : Stage.Lawful kit.id (before ++ after) := by rwa [heq]
    exact hwhole.left.ordered
  · exact ⟨fun hvisits ↦ hvisits.exists_comes hstart, fun ⟨_, hcomes⟩ ↦ hcomes.visits hstart⟩
  · obtain ⟨hbegins, htells⟩ := hcomes.tells hstart
    rw [List.nil_append] at htells
    exact ⟨hbegins, htells.mirrors, htells.managed handling, fun levels request stages answer q ↦
      ⟨describes_answers kit handling levels request _ _ htells _ _ _, htells.answered⟩⟩
  · have hsettles := hends a p hrun
    exact ⟨((hruns _ _ _).2 ⟨hrun, rfl⟩).comes, hsettles.mirrors, hsettles.enabling,
      hsettles.leaving⟩

/-- A shop that offers itself once more and then a bank while it is enabled, and disables everything
while it is disabled. The bank is closed. The host keeps a diary of the calls. -/
def marketKit : AddonKit Bool Unit Unit (List String) where
  id shop := if shop then "shop" else "bank"
  version _ := "1.0"
  onEnable shop _ :=
    if shop then
      .ask (.act (.update (· ++ ["shop opens"]))) fun _ ↦ .ask (.enable true) fun _ ↦
        .ask (.enable false) fun _ ↦ .finish (.ok ())
    else .ask (.act (.update (· ++ ["bank opens"]))) fun _ ↦ .finish (.error "closed")
  onDisable _ _ :=
    .ask (.act (.update (· ++ ["shop closes"]))) fun _ ↦ .ask .disableAll fun _ ↦ .finish (.ok ())

/-- Enables the shop, offers it again, and disables it. -/
def marketDay : AddonProgram Bool Unit (List String) Unit :=
  .ask (.enable true) fun _ ↦ .ask (.enable true) fun _ ↦ .ask (.disable "shop") fun _ ↦
    .finish ()

/-- The bank fails while the shop is being enabled, which refuses itself but is listed, and shut
down once. -/
theorem lifecycle_of_run_market :
    let handling : Handling Unit (List String) := fun _ _ ↦ .finish .done
    let start : Platform Bool Unit Unit (List String) :=
      ⟨⟨Registry.empty, [], []⟩, ⟨[]⟩, "1.0", [], []⟩
    let before : List (Stage Bool Unit) := [.starting 0 true, .refused 1 true, .starting 2 false,
      .failed 2, .enabled 0 ⟨true, ()⟩, .refused 3 true]
    let after : List (Stage Bool Unit) :=
      [.taken [0], .stopping 0, .taken [], .released [], .released [0]]
    stagesOf marketKit handling 2 marketDay [] start = before ++ after ∧
    Stage.Allowed marketKit.id before (.taken [0]) ∧ Stage.Ordered marketKit.id (before ++ after) ∧
    (Flow.leaving.gone (before ++ after)).count 0 = 1 ∧
    (∃ p, marketDay.run (service marketKit handling 2) start = some ((), p) ∧
      Runs marketKit handling 2 marketDay [] start (before ++ after) () p ∧
      p.enabled = [] ∧ p.world.host = ["shop opens", "bank opens", "shop closes"]) ∧
    ∃ p, Visits marketKit handling 2 marketDay start p ∧
      Comes marketKit handling 2 marketDay [] start [.starting 0 true] p ∧
      p.starting = ["shop"] ∧ Managed marketKit handling p := by
  intro handling start before after
  obtain ⟨hallowed, hordered, hruns, hvisits, hplaces, hends⟩ := lifecycle_of_run marketKit handling
    2 marketDay start.world start.kinds start.apiVersion
  have hhistory : stagesOf marketKit handling 2 marketDay [] start = before ++ after := by
    decide +kernel
  have hcomes : Comes marketKit handling 2 marketDay [] start [.starting 0 true]
      (start.reserve "shop") :=
    .enabling (by decide +kernel) rfl .here
  have hhost : (marketDay.run (service marketKit handling 2) start).map
      (fun (_, p) ↦ p.world.host) = some ["shop opens", "bank opens", "shop closes"] := by
    decide +kernel
  obtain ⟨⟨result, p⟩, hrun, hdiary⟩ := Option.map_eq_some_iff.1 hhost
  have hnone : Flow.listing.pending (before ++ after) = [] := by decide
  have henabled : p.enabled = [] := by
    rw [(hends result p hrun).2.1.enabled, hhistory, hnone, List.map_nil]
  refine ⟨hhistory, hallowed before _ _ hhistory, hordered _ (hhistory ▸ List.prefix_rfl),
    by decide, ⟨p, hrun, (hruns _ _ _).2 ⟨hrun, hhistory⟩, henabled, hdiary⟩, _,
    (hvisits _).2 ⟨_, hcomes⟩, hcomes, rfl, (hplaces _ _ hcomes).2.2.1⟩

end Platform

end DialogKit
