import DialogKit.Proofs.Addon.Runs
import DialogKit.Proofs.Addon.Stages

/-!
# Histories of addons

The stages that a program brings about, with the objects numbered as they are offered. They are read
off its run along with what happened before, which tells the numbers of the addons on the platform.
The history is lawful, and at each place of it the platform has the addons that have come to be
listed and have not been taken, in this order. A program gives back the lists of what is being
enabled and of what is to be shut down as it found them.
-/

namespace DialogKit.Platform

variable {A M H σ α β : Type}

/-- What happens from a platform on, after what has happened before. -/
abbrev Chronicle (A M H σ : Type) :=
  List (Stage A M) → Platform A M H σ → List (Stage A M)

/-- What happens in a computation and then in the one that goes on with its result. -/
def thenStages (x : PlatformM A M H σ α) (stages : Chronicle A M H σ)
    (rest : α → Chronicle A M H σ) : Chronicle A M H σ := fun past p ↦
  stages past p ++ match x p with
    | none => []
    | some (a, q) => rest a (past ++ stages past p) q

theorem thenStages_of_eq_some {x : PlatformM A M H σ α} {stages : Chronicle A M H σ}
    {rest : α → Chronicle A M H σ} {past : List (Stage A M)} {p q : Platform A M H σ} {a : α}
    (h : x p = some (a, q)) :
    thenStages x stages rest past p = stages past p ++ rest a (past ++ stages past p) q := by
  rw [thenStages, h]

theorem thenStages_of_eq_none {x : PlatformM A M H σ α} {stages : Chronicle A M H σ}
    {rest : α → Chronicle A M H σ} {past : List (Stage A M)} {p : Platform A M H σ}
    (h : x p = none) : thenStages x stages rest past p = stages past p := by
  rw [thenStages, h, List.append_nil]

section

variable (kit : AddonKit A M H σ)

/-- An offer is refused, or the program for enabling is called and ends one way or the other. -/
def enableStages
    (run : AddonProgram A H σ (Except String M) → PlatformM A M H σ (Except String M))
    (stages : AddonProgram A H σ (Except String M) → Chronicle A M H σ) (addon : A) :
    Chronicle A M H σ := fun past p ↦
  let n := (Stage.offered past).length
  let program := kit.onEnable addon ⟨kit.id addon, p.apiVersion⟩
  if isTaken kit p (kit.id addon) then [.refused n addon]
  else
    .starting n addon :: thenStages (run program) (stages program)
      (fun
        | .error _, _, _ => [.failed n]
        | .ok memory, _, _ => [.enabled n ⟨addon, memory⟩])
      (past ++ [.starting n addon]) (p.reserve (kit.id addon))

variable (run : AddonProgram A H σ (Except String Unit) → PlatformM A M H σ (Except String Unit))
  (stages : AddonProgram A H σ (Except String Unit) → Chronicle A M H σ)

/-- The program for disabling is called. -/
def shutDownStages (x : Nat × EnabledAddon A M) : Chronicle A M H σ := fun past p ↦
  .stopping x.1 :: stages (kit.onDisable x.2.addon x.2.memory) (past ++ [.stopping x.1]) p

def shutDownAllStages : List (Nat × EnabledAddon A M) → Chronicle A M H σ
  | [] => fun _ _ ↦ []
  | x :: rest =>
      thenStages (shutDown kit run x.2) (shutDownStages kit stages x) fun _ ↦
        shutDownAllStages rest

/-- The addon with the id is taken and shut down, if there is one. -/
def disableStages (id : String) : Chronicle A M H σ := fun past p ↦
  match (Flow.listing.pending past).find? fun x ↦ kit.id x.2.addon == id with
  | none => []
  | some x =>
      .taken [x.1] :: thenStages (shutDown kit run x.2) (shutDownStages kit stages x)
        (fun _ _ _ ↦ [.released [x.1]]) (past ++ [.taken [x.1]]) (withdraw kit p id)

/-- All addons are taken, and shut down in the reverse of the order of the list. -/
def disableAllStages : Chronicle A M H σ := fun past p ↦
  let listed := (Flow.listing.pending past).reverse
  let ns := listed.map Prod.fst
  .taken ns :: thenStages (shutDownAll kit run (listed.map Prod.snd))
    (shutDownAllStages kit run stages listed) (fun _ _ _ ↦ [.released ns])
    (past ++ [.taken ns]) { p with enabled := [] }

end

/-- The stage at which a program for enabling has ended. -/
def endStage (n : Nat) (addon : A) : Except String M → Stage A M
  | .error _ => .failed n
  | .ok memory => .enabled n ⟨addon, memory⟩

/-! ### Stages of calls that end -/

section

variable {kit : AddonKit A M H σ} {past : List (Stage A M)} {p r : Platform A M H σ}

theorem enableStages_of_isTaken {addon : A}
    (run : AddonProgram A H σ (Except String M) → PlatformM A M H σ (Except String M))
    (stages : AddonProgram A H σ (Except String M) → Chronicle A M H σ)
    (h : isTaken kit p (kit.id addon) = true) :
    enableStages kit run stages addon past p =
      [.refused (Stage.offered past).length addon] :=
  if_pos h

theorem enableStages_of_eq_some {addon : A} {ended : Except String M}
    {run : AddonProgram A H σ (Except String M) → PlatformM A M H σ (Except String M)}
    (stages : AddonProgram A H σ (Except String M) → Chronicle A M H σ)
    (hfree : isTaken kit p (kit.id addon) = false)
    (hrun : run (kit.onEnable addon ⟨kit.id addon, p.apiVersion⟩) (p.reserve (kit.id addon)) =
      some (ended, r)) :
    let n := (Stage.offered past).length
    enableStages kit run stages addon past p =
      .starting n addon :: stages (kit.onEnable addon ⟨kit.id addon, p.apiVersion⟩)
        (past ++ [.starting n addon]) (p.reserve (kit.id addon)) ++ [endStage n addon ended] := by
  unfold enableStages
  dsimp only
  rw [if_neg (by simp [hfree]), thenStages_of_eq_some hrun]
  cases ended with
  | error reason => rfl
  | ok memory => rfl

variable {run : AddonProgram A H σ (Except String Unit) → PlatformM A M H σ (Except String Unit)}
  (stages : AddonProgram A H σ (Except String Unit) → Chronicle A M H σ)
  {ended : Except String Unit}

theorem shutDownAllStages_cons_of_eq_some {x : Nat × EnabledAddon A M}
    (rest : List (Nat × EnabledAddon A M))
    (hrun : run (kit.onDisable x.2.addon x.2.memory) p = some (ended, r)) :
    shutDownAllStages kit run stages (x :: rest) past p =
      shutDownStages kit stages x past p ++
        shutDownAllStages kit run stages rest (past ++ shutDownStages kit stages x past p)
          (r.after [.log (stopEvent kit x.2.addon ended)]) :=
  thenStages_of_eq_some (shutDown_eq_some.2 ⟨ended, r, hrun, rfl, rfl⟩)

theorem shutDownAllStages_append_of_eq_some {front : List (Nat × EnabledAddon A M)} {count : Nat}
    (rest : List (Nat × EnabledAddon A M))
    (hfront : shutDownAll kit run (front.map Prod.snd) p = some (count, r)) :
    shutDownAllStages kit run stages (front ++ rest) past p =
      shutDownAllStages kit run stages front past p ++
        shutDownAllStages kit run stages rest
          (past ++ shutDownAllStages kit run stages front past p) r := by
  induction front generalizing past p count with
  | nil =>
    obtain ⟨_, rfl⟩ := pure_eq_some.1 hfront
    simp [shutDownAllStages]
  | cons x front ih =>
    obtain ⟨ended, q, others, hrun, hrest, _⟩ := shutDownAll_cons_eq_some.1 hfront
    rw [List.cons_append, shutDownAllStages_cons_of_eq_some stages _ hrun, ih hrest,
      shutDownAllStages_cons_of_eq_some stages _ hrun]
    simp only [List.append_assoc]

theorem disableStages_of_none {id : String}
    (run : AddonProgram A H σ (Except String Unit) → PlatformM A M H σ (Except String Unit))
    (h : (Flow.listing.pending past).find? (fun x ↦ kit.id x.2.addon == id) = none) :
    disableStages kit run stages id past p = [] := by
  rw [disableStages, h]

theorem disableStages_of_eq_some {id : String} {x : Nat × EnabledAddon A M}
    (hlisted : (Flow.listing.pending past).find? (fun x ↦ kit.id x.2.addon == id) = some x)
    (hrun : run (kit.onDisable x.2.addon x.2.memory) (withdraw kit p id) = some (ended, r)) :
    disableStages kit run stages id past p =
      .taken [x.1] :: .stopping x.1 :: stages (kit.onDisable x.2.addon x.2.memory)
        (past ++ [.taken [x.1], .stopping x.1]) (withdraw kit p id) ++ [.released [x.1]] := by
  unfold disableStages
  rw [hlisted]
  dsimp only
  rw [thenStages_of_eq_some (shutDown_eq_some.2 ⟨ended, r, hrun, rfl, rfl⟩), shutDownStages,
    ← List.append_cons]
  rfl

theorem disableAllStages_of_eq_some {count : Nat}
    (hshut : shutDownAll kit run ((Flow.listing.pending past).reverse.map Prod.snd)
      { p with enabled := [] } = some (count, r)) :
    let listed := (Flow.listing.pending past).reverse
    let ns := listed.map Prod.fst
    disableAllStages kit run stages past p =
      .taken ns :: shutDownAllStages kit run stages listed (past ++ [.taken ns])
        { p with enabled := [] } ++ [.released ns] := by
  unfold disableAllStages
  dsimp only
  rw [thenStages_of_eq_some hshut]
  rfl

end

/-! ### Stages of programs -/

/-- What happens in a program. -/
def programStages (service : (request : AddonRequest A H σ) → PlatformM A M H σ request.Answer)
    (stages : AddonRequest A H σ → Chronicle A M H σ) :
    AddonProgram A H σ α → Chronicle A M H σ
  | .finish _ => fun _ _ ↦ []
  | .ask request next =>
      thenStages (service request) (stages request) fun answer ↦
        programStages service stages (next answer)

/-- What happens in a request that is answered within so many levels. -/
def requestStages (kit : AddonKit A M H σ) (handling : Handling H σ) :
    Nat → AddonRequest A H σ → Chronicle A M H σ
  | _, .act _ | _, .addKind _ | 0, _ => fun _ _ ↦ []
  | levels + 1, .enable addon =>
      enableStages kit (Program.run (service kit handling levels))
        (programStages (service kit handling levels) (requestStages kit handling levels)) addon
  | levels + 1, .disable id =>
      disableStages kit (Program.run (service kit handling levels))
        (programStages (service kit handling levels) (requestStages kit handling levels)) id
  | levels + 1, .disableAll =>
      disableAllStages kit (Program.run (service kit handling levels))
        (programStages (service kit handling levels) (requestStages kit handling levels))

/-- What happens in a program whose requests are answered within so many levels. -/
def stagesOf (kit : AddonKit A M H σ) (handling : Handling H σ) (levels : Nat) :
    AddonProgram A H σ α → Chronicle A M H σ :=
  programStages (service kit handling levels) (requestStages kit handling levels)

/-! ## What a history says of the platform -/

variable {kit : AddonKit A M H σ} {past past' : List (Stage A M)} {p q : Platform A M H σ}

/-- The lists of the platform are what the history says. -/
structure Mirrors (kit : AddonKit A M H σ) (past : List (Stage A M)) (p : Platform A M H σ) :
    Prop where
  enabled : p.enabled = (Flow.listing.pending past).map Prod.snd
  starting : p.starting = (Flow.enabling.pending past).map fun x ↦ kit.id x.2

theorem Mirrors.sameLists (h : Mirrors kit past p) (hlists : SameLists p q) :
    Mirrors kit past q :=
  ⟨hlists.enabled.trans h.enabled, hlists.starting.trans h.starting⟩

theorem Mirrors.isTaken_iff (h : Mirrors kit past p) (id : String) :
    isTaken kit p id = true ↔ id ∈ Stage.claimed kit.id past := by
  unfold isTaken Stage.claimed
  rw [h.enabled, h.starting]
  simp [List.any_map]

/-- From the one history to the other, the objects `ns` were shut down. The lists of what is being
enabled and of what is to be shut down are otherwise back to what they were. -/
structure Settles (kit : AddonKit A M H σ) (ns : List Nat) (past past' : List (Stage A M))
    (q : Platform A M H σ) : Prop where
  mirrors : Mirrors kit past' q
  enabling : Flow.enabling.pending past' = Flow.enabling.pending past
  leaving : Flow.leaving.pending past' =
    (Flow.leaving.pending past).filter fun n ↦ !ns.contains n

theorem Mirrors.settles (h : Mirrors kit past p) : Settles kit [] past past p :=
  ⟨h, rfl, by simp⟩

theorem Settles.sameLists {ns : List Nat} {r : Platform A M H σ}
    (h : Settles kit ns past past' q) (hlists : SameLists q r) : Settles kit ns past past' r :=
  ⟨h.mirrors.sameLists hlists, h.enabling, h.leaving⟩

/-- A stage that concerns nobody on the way. -/
theorem Settles.idle {ns : List Nat} {stage : Stage A M} (h : Settles kit ns past past' q)
    (henabling : Flow.enabling.Idle stage) (hlisting : Flow.listing.Idle stage)
    (hleaving : Flow.leaving.Idle stage) : Settles kit ns past (past' ++ [stage]) q where
  mirrors := by
    constructor
    · rw [Flow.pending_of_idle hlisting, h.mirrors.enabled]
    · rw [Flow.pending_of_idle henabling, h.mirrors.starting]
  enabling := (Flow.pending_of_idle henabling).trans h.enabling
  leaving := (Flow.pending_of_idle hleaving).trans h.leaving

theorem Settles.trans {ms ns : List Nat} {past'' : List (Stage A M)} {r : Platform A M H σ}
    (h : Settles kit ms past past' q) (h' : Settles kit ns past' past'' r) :
    Settles kit (ms ++ ns) past past'' r where
  mirrors := h'.mirrors
  enabling := h'.enabling.trans h.enabling
  leaving := by
    rw [h'.leaving, h.leaving, List.filter_filter]
    refine List.filter_congr fun n _ ↦ ?_
    rw [List.contains_append, Bool.not_or, Bool.and_comm]

/-- Whatever lawful history it goes on from, the computation goes on lawfully, and if it ends, it
has shut down the objects `ns`, which waited for it. -/
def Tracks (kit : AddonKit A M H σ) (ns : List Nat) (x : PlatformM A M H σ α)
    (stages : Chronicle A M H σ) : Prop :=
  ∀ past p, Stage.Lawful kit.id past → Mirrors kit past p → ns.Nodup →
    (∀ n ∈ ns, n ∈ Flow.leaving.pending past) →
    Stage.Lawful kit.id (past ++ stages past p) ∧
    ∀ a q, x p = some (a, q) → Settles kit ns past (past ++ stages past p) q

theorem tracks_idle {x : PlatformM A M H σ α} (h : ∀ p a q, x p = some (a, q) → SameLists p q) :
    Tracks kit [] x fun _ _ ↦ [] := by
  intro past p hlawful hmirrors _ _
  rw [List.append_nil]
  exact ⟨hlawful, fun a q hx ↦ (hmirrors.sameLists (h p a q hx)).settles⟩

/-- The history is lawful and tells the lists of the platform. -/
structure Tells (kit : AddonKit A M H σ) (past : List (Stage A M)) (p : Platform A M H σ) :
    Prop where
  lawful : Stage.Lawful kit.id past
  mirrors : Mirrors kit past p

/-- Each of the objects waits to be shut down. -/
structure Wait (past : List (Stage A M)) (ns : List Nat) : Prop where
  once : ns.Nodup
  pending : ∀ n ∈ ns, n ∈ Flow.leaving.pending past

theorem wait_nil (past : List (Stage A M)) : Wait past [] :=
  ⟨List.nodup_nil, by simp⟩

theorem Wait.left {ms ns : List Nat} (h : Wait past (ms ++ ns)) : Wait past ms :=
  ⟨(List.nodup_append.1 h.once).1, fun n hn ↦ h.pending n (List.mem_append_left _ hn)⟩

/-- Others than those that a computation shuts down still wait when it ends. -/
theorem Tracks.tells {ms ns : List Nat} {x : PlatformM A M H σ α} {stages : Chronicle A M H σ}
    {a : α} (hx : Tracks kit ms x stages) (h : Tells kit past p) (hwait : Wait past (ms ++ ns))
    (ha : x p = some (a, q)) :
    Tells kit (past ++ stages past p) q ∧ Wait (past ++ stages past p) ns := by
  obtain ⟨hms, hns, hdisjoint⟩ := List.nodup_append.1 hwait.once
  obtain ⟨hlawful, hends⟩ := hx past p h.lawful h.mirrors hms fun n hn ↦
    hwait.pending n (List.mem_append_left _ hn)
  have hsettles := hends a q ha
  refine ⟨⟨hlawful, hsettles.mirrors⟩, hns, fun n hn ↦ ?_⟩
  have hother : n ∉ ms := fun hm ↦ hdisjoint n hm n hn rfl
  rw [hsettles.leaving, List.mem_filter]
  exact ⟨hwait.pending n (List.mem_append_right _ hn), by simpa using hother⟩

theorem Tracks.tells_after {x : PlatformM A M H σ α} {stages : Chronicle A M H σ} {a : α}
    (hx : Tracks kit [] x stages) (h : Tells kit past p) (ha : x p = some (a, q)) :
    Tells kit (past ++ stages past p) q :=
  (hx.tells h (wait_nil past) ha).1

theorem Tracks.bind {ms ns : List Nat} {x : PlatformM A M H σ α} {y : α → PlatformM A M H σ β}
    {stages : Chronicle A M H σ} {rest : α → Chronicle A M H σ} (hx : Tracks kit ms x stages)
    (hy : ∀ a, Tracks kit ns (y a) (rest a)) :
    Tracks kit (ms ++ ns) (x >>= y) (thenStages x stages rest) := by
  intro past p hlawful hmirrors honce hwait
  obtain ⟨hstages, hends⟩ := hx past p hlawful hmirrors (List.nodup_append.1 honce).1 fun n hn ↦
    hwait n (List.mem_append_left _ hn)
  cases hresult : x p with
  | none =>
    rw [thenStages_of_eq_none hresult]
    refine ⟨hstages, fun b q h ↦ ?_⟩
    obtain ⟨a, r, hr, _⟩ := bind_eq_some.1 h
    simp [hresult] at hr
  | some result =>
    obtain ⟨a, r⟩ := result
    have hsettles := hends a r hresult
    obtain ⟨htells, hstill⟩ := hx.tells ⟨hlawful, hmirrors⟩ ⟨honce, hwait⟩ hresult
    obtain ⟨hrest, hends'⟩ := hy a _ r htells.lawful htells.mirrors hstill.once hstill.pending
    rw [thenStages_of_eq_some hresult, ← List.append_assoc]
    refine ⟨hrest, fun b q h ↦ ?_⟩
    obtain ⟨_, _, hr, hq⟩ := bind_eq_some.1 h
    obtain ⟨rfl, rfl⟩ : a = _ ∧ r = _ := by simpa [hresult] using hr
    exact hsettles.trans (hends' b q hq)

/-- What follows a computation may leave the lists alone. -/
theorem Tracks.andThen {ns : List Nat} {x : PlatformM A M H σ α} {y : α → PlatformM A M H σ β}
    {stages : Chronicle A M H σ} (hx : Tracks kit ns x stages)
    (hy : ∀ a p b q, y a p = some (b, q) → SameLists p q) : Tracks kit ns (x >>= y) stages := by
  intro past p hlawful hmirrors honce hwait
  obtain ⟨hstages, hends⟩ := hx past p hlawful hmirrors honce hwait
  refine ⟨hstages, fun b q h ↦ ?_⟩
  obtain ⟨a, r, hr, hq⟩ := bind_eq_some.1 h
  exact (hends a r hr).sameLists (hy a r b q hq)

/-- A program tracks if every request does. -/
theorem tracks_run {service : (request : AddonRequest A H σ) → PlatformM A M H σ request.Answer}
    {stages : AddonRequest A H σ → Chronicle A M H σ}
    (h : ∀ request, Tracks kit [] (service request) (stages request))
    (program : AddonProgram A H σ α) :
    Tracks kit [] (program.run service) (programStages service stages program) := by
  induction program with
  | finish result => exact tracks_idle fun p a q hx ↦ sameLists_of_pure hx
  | ask request next ih => exact (h request).bind ih

/-! ## Enabling -/

section

variable {addon : A} {n : Nat} {stage : Stage A M}

theorem Mirrors.reserve (h : Mirrors kit past p) (hlawful : Stage.Lawful kit.id past)
    (hallowed : Stage.Allowed kit.id past (.starting n addon)) :
    Mirrors kit (past ++ [.starting n addon]) (p.reserve (kit.id addon)) := by
  have hsound := hlawful.sound
  constructor
  · rw [Flow.pending_of_idle ⟨rfl, rfl⟩]
    exact h.enabled
  · rw [hsound.enabling.pending_come (hsound.admits_enabling hallowed) rfl, List.map_append,
      ← h.starting]
    rfl

/-- While the program for enabling runs, its object is the last that is being enabled. -/
theorem Settles.enabling_last (hlawful : Stage.Lawful kit.id past)
    (hallowed : Stage.Allowed kit.id past (.starting n addon))
    (h : Settles kit [] (past ++ [.starting n addon]) past' q) :
    Flow.enabling.pending past' = Flow.enabling.pending past ++ [(n, addon)] := by
  have hsound := hlawful.sound
  rw [h.enabling, hsound.enabling.pending_come (hsound.admits_enabling hallowed) rfl]
  rfl

/-- When the program for enabling has ended, the id is not reserved any more. -/
theorem Settles.ended {r : Platform A M H σ} (hlawful : Stage.Lawful kit.id past)
    (hallowed : Stage.Allowed kit.id past (.starting n addon))
    (h : Settles kit [] (past ++ [.starting n addon]) past' r)
    (hadmits : Flow.enabling.Admits past' stage)
    (hcomes : (Flow.enabling : Flow A M _).comes stage = [])
    (hgoes : (Flow.enabling : Flow A M _).goes stage = [n])
    (hlawful' : Stage.Lawful kit.id past') (hleaving : Flow.leaving.Idle stage)
    (henabled : q.enabled = (Flow.listing.pending (past' ++ [stage])).map Prod.snd)
    (hstarting : q.starting = r.starting.erase (kit.id addon)) :
    Settles kit [] past (past' ++ [stage]) q := by
  have hlast := h.enabling_last hlawful hallowed
  have hback : Flow.enabling.pending (past' ++ [stage]) = Flow.enabling.pending past :=
    hlawful'.sound.enabling.pending_last hadmits hcomes hlast hgoes
  -- `erase` drops the first entry with the id: it is the last one, since the id was free before
  have hfree : kit.id addon ∉ (Flow.enabling.pending past).map fun x ↦ kit.id x.2 :=
    fun hmem ↦ hallowed.2 (List.mem_append_left _ hmem)
  refine ⟨⟨henabled, ?_⟩, hback, ?_⟩
  · rw [hstarting, h.mirrors.starting, hback, hlast, List.map_append,
      List.erase_append_right _ hfree]
    simp
  · rw [Flow.pending_of_idle hleaving, h.leaving, Flow.pending_of_idle ⟨rfl, rfl⟩]

/-- The object whose program has failed is not listed, and the one whose program has ended well is
the last of the list. -/
theorem Settles.conclude {r : Platform A M H σ} (hlawful : Stage.Lawful kit.id past)
    (hallowed : Stage.Allowed kit.id past (.starting n addon))
    (h : Settles kit [] (past ++ [.starting n addon]) past' r)
    (hlawful' : Stage.Lawful kit.id past') (ended : Except String M) :
    Stage.Allowed kit.id past' (endStage n addon ended) ∧
      Settles kit [] past (past' ++ [endStage n addon ended]) (conclude kit r addon ended) := by
  have hsound := hlawful'.sound
  have hlast : (Flow.enabling.pending past').getLast? = some (n, addon) :=
    (congrArg List.getLast? (h.enabling_last hlawful hallowed)).trans List.getLast?_concat
  cases ended with
  | error reason =>
    have hallowed' : Stage.Allowed kit.id past' (.failed n) := ⟨addon, hlast⟩
    refine ⟨hallowed', h.ended hlawful hallowed (hsound.admits_enabling hallowed') rfl rfl hlawful'
      ⟨rfl, rfl⟩ ?_ rfl⟩
    rw [Flow.pending_of_idle ⟨rfl, rfl⟩]
    exact h.mirrors.enabled
  | ok memory =>
    have hallowed' : Stage.Allowed kit.id past' (.enabled n ⟨addon, memory⟩) := hlast
    refine ⟨hallowed', h.ended hlawful hallowed (hsound.admits_enabling hallowed') rfl rfl hlawful'
      ⟨rfl, rfl⟩ ?_ rfl⟩
    have hlisted := hsound.listing.pending_come (hsound.admits_listing hallowed') rfl
    rw [endStage, hlisted, List.map_append, ← h.mirrors.enabled]
    rfl

variable {run : AddonProgram A H σ (Except String M) → PlatformM A M H σ (Except String M)}
  {stages : AddonProgram A H σ (Except String M) → Chronicle A M H σ}

/-- An offer of a taken id is one stage, after which everything is as before. -/
theorem Mirrors.refused (h : Mirrors kit past p) (hlawful : Stage.Lawful kit.id past)
    (htaken : isTaken kit p (kit.id addon) = true) :
    let past' := past ++ [.refused (Stage.offered past).length addon]
    Stage.Lawful kit.id past' ∧
      ∀ result q, enableWith kit run addon p = some (result, q) →
        Settles kit [] past past' q := by
  have hallowed : Stage.Allowed kit.id past (.refused (Stage.offered past).length addon) :=
    ⟨rfl, (h.isTaken_iff _).1 htaken⟩
  refine ⟨hlawful.snoc hallowed, fun result q hx ↦ ?_⟩
  obtain ⟨_, rfl⟩ : _ = result ∧ p.after [.log (skipEvent kit addon)] = q := by
    simpa [hx] using (enableWith_of_isTaken run htaken).symm
  exact h.settles.idle ⟨rfl, rfl⟩ ⟨rfl, rfl⟩ ⟨rfl, rfl⟩ |>.sameLists (sameLists_after ..)

theorem Mirrors.allowed_starting (h : Mirrors kit past p)
    (hfree : isTaken kit p (kit.id addon) = false) :
    Stage.Allowed kit.id past (.starting (Stage.offered past).length addon) :=
  ⟨rfl, fun hmem ↦ by simp [(h.isTaken_iff _).2 hmem] at hfree⟩

theorem tracks_enableWith (h : ∀ program, Tracks kit [] (run program) (stages program))
    (addon : A) : Tracks kit [] (enableWith kit run addon) (enableStages kit run stages addon) := by
  intro past p hlawful hmirrors _ _
  cases htaken : isTaken kit p (kit.id addon) with
  | true =>
    rw [enableStages_of_isTaken run stages htaken]
    exact hmirrors.refused hlawful htaken
  | false =>
    have hallowed := hmirrors.allowed_starting htaken
    obtain ⟨hlawful', hends⟩ := h (kit.onEnable addon ⟨kit.id addon, p.apiVersion⟩) _ _
      (hlawful.snoc hallowed) (hmirrors.reserve hlawful hallowed) List.nodup_nil (by simp)
    -- the program for enabling needs too many levels, or it ends
    cases hrun :
        run (kit.onEnable addon ⟨kit.id addon, p.apiVersion⟩) (p.reserve (kit.id addon)) with
    | none =>
      unfold enableStages
      dsimp only
      rw [if_neg (by simp [htaken]), thenStages_of_eq_none hrun, List.append_cons]
      refine ⟨hlawful', fun a q hx ↦ ?_⟩
      obtain ⟨_, _, hrun', _⟩ := (enableWith_eq_some htaken).1 hx
      simp [hrun] at hrun'
    | some result =>
      obtain ⟨ended, r⟩ := result
      obtain ⟨hallowed', hsettles⟩ := (hends ended r hrun).conclude hlawful hallowed hlawful' ended
      rw [enableStages_of_eq_some stages htaken hrun, List.cons_append, List.append_cons,
        ← List.append_assoc]
      refine ⟨hlawful'.snoc hallowed', fun a q hx ↦ ?_⟩
      obtain ⟨_, _, hrun', _, rfl⟩ := (enableWith_eq_some htaken).1 hx
      obtain ⟨rfl, rfl⟩ : ended = _ ∧ r = _ := by simpa [hrun] using hrun'
      exact hsettles

end

/-! ## Disabling -/

section

variable {run : AddonProgram A H σ (Except String Unit) → PlatformM A M H σ (Except String Unit)}
  {stages : AddonProgram A H σ (Except String Unit) → Chronicle A M H σ}

/-- The program for disabling is called for what waits for it. -/
theorem Mirrors.stopping {n : Nat} (h : Mirrors kit past p) (hlawful : Stage.Lawful kit.id past)
    (hwait : n ∈ Flow.leaving.pending past) :
    Stage.Lawful kit.id (past ++ [.stopping n]) ∧
      Settles kit [n] past (past ++ [.stopping n]) p := by
  have hallowed : Stage.Allowed kit.id past (.stopping n) := hwait
  have hsound := hlawful.sound
  refine ⟨hlawful.snoc hallowed, ⟨?_, ?_⟩, Flow.pending_of_idle ⟨rfl, rfl⟩,
    hsound.leaving.pending_go (hsound.admits_leaving hallowed) rfl⟩
  · rw [Flow.pending_of_idle ⟨rfl, rfl⟩, h.enabled]
  · rw [Flow.pending_of_idle ⟨rfl, rfl⟩, h.starting]

theorem tracks_shutDown (h : ∀ program, Tracks kit [] (run program) (stages program))
    (x : Nat × EnabledAddon A M) :
    Tracks kit [x.1] (shutDown kit run x.2) (shutDownStages kit stages x) := by
  intro past p hlawful hmirrors _ hwait
  obtain ⟨hlawful', hcalled⟩ := hmirrors.stopping hlawful (hwait x.1 (List.mem_singleton_self _))
  obtain ⟨hlawful'', hends⟩ := h (kit.onDisable x.2.addon x.2.memory) _ p hlawful' hcalled.mirrors
    List.nodup_nil (by simp)
  rw [shutDownStages, List.append_cons]
  refine ⟨hlawful'', fun a q hx ↦ ?_⟩
  obtain ⟨ended, r, hrun, _, rfl⟩ := shutDown_eq_some.1 hx
  exact (hcalled.trans (hends ended r hrun)).sameLists (sameLists_after ..)

theorem tracks_shutDownAll (h : ∀ program, Tracks kit [] (run program) (stages program))
    (xs : List (Nat × EnabledAddon A M)) :
    Tracks kit (xs.map Prod.fst) (shutDownAll kit run (xs.map Prod.snd))
      (shutDownAllStages kit run stages xs) := by
  induction xs with
  | nil => exact tracks_idle fun p a q hx ↦ sameLists_of_pure hx
  | cons x xs ih =>
    refine (tracks_shutDown h x).bind fun result ↦ ih.andThen fun count p a q hx ↦ ?_
    cases result <;> exact sameLists_of_pure hx

/-- What leaves the list joins those that wait to be shut down. -/
theorem leaving_pending_taken {ns : List Nat} (hlawful : Stage.Lawful kit.id past)
    (hallowed : Stage.Allowed kit.id past (.taken ns)) :
    Flow.leaving.pending (past ++ [.taken ns]) = Flow.leaving.pending past ++ ns :=
  hlawful.sound.leaving.pending_come (hlawful.sound.admits_leaving hallowed) rfl

theorem wait_taken {ns : List Nat} (hlawful : Stage.Lawful kit.id past)
    (hallowed : Stage.Allowed kit.id past (.taken ns)) : Wait (past ++ [.taken ns]) ns := by
  refine ⟨hallowed.1, fun n hn ↦ ?_⟩
  rw [leaving_pending_taken hlawful hallowed]
  exact List.mem_append_right _ hn

theorem not_mem_of_allowed_taken {ns : List Nat}
    (hallowed : Stage.Allowed kit.id past (.taken ns)) :
    ∀ n ∈ Flow.leaving.pending past, n ∉ ns := by
  intro n hleaving hn
  have hgone : n ∈ Flow.listing.gone past := by
    rw [← Stage.leaving_come_eq]
    exact (Flow.mem_pending.1 hleaving).1
  exact (Flow.mem_map_pending.1 (hallowed.2 n hn)).2 hgone

/-- When all that were taken have been shut down, the request may be answered. -/
theorem Settles.released {ns : List Nat} {more : List (Stage A M)}
    (hlawful : Stage.Lawful kit.id past) (hallowed : Stage.Allowed kit.id past (.taken ns))
    (h : Settles kit ns (past ++ [.taken ns]) (past ++ [.taken ns] ++ more) q) :
    Stage.Allowed kit.id (past ++ [.taken ns] ++ more) (.released ns) ∧
      Settles kit [] past (past ++ [.taken ns] ++ more ++ [.released ns]) q := by
  have hother := not_mem_of_allowed_taken hallowed
  have hback : Flow.leaving.pending (past ++ [.taken ns] ++ more) = Flow.leaving.pending past := by
    have hkept : (Flow.leaving.pending past).filter (fun n ↦ !ns.contains n) =
        Flow.leaving.pending past := List.filter_eq_self.2 fun n hn ↦ by simpa using hother n hn
    have hgone : ns.filter (fun n ↦ !ns.contains n) = [] :=
      List.filter_eq_nil_iff.2 fun n hn ↦ by simpa using hn
    rw [h.leaving, leaving_pending_taken hlawful hallowed, List.filter_append, hkept, hgone,
      List.append_nil]
  constructor
  · rw [Stage.Allowed, hback]
    exact ⟨by simp, fun n hn hmem ↦ hother n hmem hn⟩
  · refine Settles.idle ⟨h.mirrors, ?_, ?_⟩ ⟨rfl, rfl⟩ ⟨rfl, rfl⟩ ⟨rfl, rfl⟩
    · rw [h.enabling, Flow.pending_of_idle ⟨rfl, rfl⟩]
    · rw [hback]
      simp

/-- Addons leave the list, and are shut down before the request is answered. -/
theorem tracks_taking {ns : List Nat} {x : PlatformM A M H σ α} {body : Chronicle A M H σ}
    (hx : Tracks kit ns x body) (hlawful : Stage.Lawful kit.id past)
    (hallowed : Stage.Allowed kit.id past (.taken ns))
    (hmirrors : Mirrors kit (past ++ [.taken ns]) p) :
    let stages := .taken ns ::
      thenStages x body (fun _ _ _ ↦ [.released ns]) (past ++ [.taken ns]) p
    Stage.Lawful kit.id (past ++ stages) ∧
      ∀ a q, x p = some (a, q) → Settles kit [] past (past ++ stages) q := by
  have hwait := wait_taken hlawful hallowed
  obtain ⟨hlawful', hends⟩ := hx _ p (hlawful.snoc hallowed) hmirrors hwait.once hwait.pending
  dsimp only
  rw [List.append_cons]
  cases hresult : x p with
  | none =>
    rw [thenStages_of_eq_none hresult]
    exact ⟨hlawful', fun _ _ h ↦ nomatch h⟩
  | some result =>
    obtain ⟨a, q⟩ := result
    obtain ⟨hreleased, hsettles⟩ := (hends a q hresult).released hlawful hallowed
    rw [thenStages_of_eq_some hresult, ← List.append_assoc]
    refine ⟨hlawful'.snoc hreleased, fun b q' h ↦ ?_⟩
    obtain ⟨rfl, rfl⟩ : a = b ∧ q = q' := by simpa using h
    exact hsettles

/-- If a key tells the entries apart, the first that is found is the only one to go. -/
theorem eraseP_eq_filter {ε κ : Type} [BEq κ] [LawfulBEq κ] {key : ε → κ} {xs : List ε}
    (hnodup : (xs.map key).Nodup) {test : ε → Bool} {x : ε} (hfind : xs.find? test = some x) :
    xs.eraseP test = xs.filter fun y ↦ key y != key x := by
  induction xs with
  | nil => simp at hfind
  | cons y xs ih =>
    obtain ⟨hfresh, hnodup⟩ := List.nodup_cons.1 hnodup
    cases hy : test y with
    | true =>
      obtain rfl : y = x := by simpa [hy] using hfind
      have hkept : ∀ z ∈ xs, key z ≠ key y := fun z hz heq ↦ hfresh (heq ▸ List.mem_map_of_mem hz)
      rw [List.eraseP_cons_of_pos hy, List.filter_cons_of_neg (by simp),
        List.filter_eq_self.2 fun z hz ↦ by simpa using hkept z hz]
    | false =>
      rw [List.find?_cons_of_neg (by simp [hy])] at hfind
      have hne : key y ≠ key x := fun heq ↦
        hfresh (heq ▸ List.mem_map_of_mem (List.mem_of_find?_eq_some hfind))
      rw [List.eraseP_cons_of_neg (by simp [hy]), List.filter_cons_of_pos (by simpa using hne),
        ih hnodup hfind]

theorem Mirrors.find?_enabled (h : Mirrors kit past p) (id : String) :
    p.enabled.find? (fun entry ↦ kit.id entry.addon == id) =
      ((Flow.listing.pending past).find? fun x ↦ kit.id x.2.addon == id).map Prod.snd := by
  rw [h.enabled, List.find?_map]
  rfl

/-- One addon leaves the list. -/
theorem Mirrors.withdraw {id : String} {x : Nat × EnabledAddon A M} (h : Mirrors kit past p)
    (hlawful : Stage.Lawful kit.id past)
    (hlisted : (Flow.listing.pending past).find? (fun x ↦ kit.id x.2.addon == id) = some x) :
    Stage.Allowed kit.id past (.taken [x.1]) ∧
      Mirrors kit (past ++ [.taken [x.1]]) (withdraw kit p id) := by
  have hsound := hlawful.sound
  have hallowed : Stage.Allowed kit.id past (.taken [x.1]) := by
    refine ⟨List.nodup_singleton _, fun n hn ↦ ?_⟩
    obtain rfl := List.mem_singleton.1 hn
    exact List.mem_map_of_mem (List.mem_of_find?_eq_some hlisted)
  refine ⟨hallowed, ?_, ?_⟩
  -- the list drops the first addon with the id, the history the object with the number
  · rw [hsound.listing.pending_go (hsound.admits_listing hallowed) rfl, Platform.withdraw]
    dsimp only
    rw [h.enabled, List.eraseP_map]
    refine congrArg _ ((eraseP_eq_filter hsound.listing.nodup_pending hlisted).trans ?_)
    refine List.filter_congr fun y _ ↦ ?_
    change (y.1 != x.1) = !([x.1].contains y.1)
    rw [Bool.eq_iff_iff]
    simp
  · rw [Flow.pending_of_idle ⟨rfl, rfl⟩]
    exact h.starting

/-- All addons leave the list. -/
theorem Mirrors.withdrawAll (h : Mirrors kit past p) (hlawful : Stage.Lawful kit.id past) :
    let ns := (Flow.listing.pending past).reverse.map Prod.fst
    Stage.Allowed kit.id past (.taken ns) ∧
      Mirrors kit (past ++ [.taken ns]) { p with enabled := [] } := by
  intro ns
  have hsound := hlawful.sound
  have hns : ns = ((Flow.listing.pending past).map Prod.fst).reverse := List.map_reverse ..
  have hallowed : Stage.Allowed kit.id past (.taken ns) := by
    rw [hns]
    exact ⟨List.nodup_reverse.2 hsound.listing.nodup_pending, fun n hn ↦ List.mem_reverse.1 hn⟩
  refine ⟨hallowed, ?_, ?_⟩
  · have hmem : ∀ x ∈ Flow.listing.pending past, x.1 ∈ ns := fun x hx ↦
      hns ▸ List.mem_reverse.2 (List.mem_map_of_mem hx)
    have hnone : (Flow.listing.pending past).filter (fun x ↦ !ns.contains x.1) = [] :=
      List.filter_eq_nil_iff.2 fun x hx ↦ by simpa using hmem x hx
    rw [hsound.listing.pending_go (hsound.admits_listing hallowed) rfl]
    exact (congrArg (List.map Prod.snd) hnone).symm
  · rw [Flow.pending_of_idle ⟨rfl, rfl⟩]
    exact h.starting

theorem tracks_disableWith (h : ∀ program, Tracks kit [] (run program) (stages program))
    (id : String) : Tracks kit [] (disableWith kit run id) (disableStages kit run stages id) := by
  intro past p hlawful hmirrors _ _
  have hfind := hmirrors.find?_enabled id
  unfold disableStages
  cases hlisted : (Flow.listing.pending past).find? fun x ↦ kit.id x.2.addon == id with
  | none =>
    rw [hlisted] at hfind
    dsimp only
    rw [List.append_nil]
    refine ⟨hlawful, fun a q hx ↦ ?_⟩
    obtain ⟨_, rfl⟩ : _ = a ∧ p.after [.log (missEvent id)] = q := by
      simpa [hx] using (disableWith_of_none run hfind).symm
    exact (hmirrors.sameLists (sameLists_after ..)).settles
  | some x =>
    rw [hlisted] at hfind
    obtain ⟨hallowed, hmirrors'⟩ := hmirrors.withdraw hlawful hlisted
    obtain ⟨hlawful', hends⟩ := tracks_taking (tracks_shutDown h x) hlawful hallowed hmirrors'
    refine ⟨hlawful', fun a q hx ↦ ?_⟩
    obtain ⟨ended, r, hrun, _, rfl⟩ := (disableWith_eq_some hfind).1 hx
    exact hends _ _ (shutDown_eq_some.2 ⟨ended, r, hrun, rfl, rfl⟩)

theorem Mirrors.disableAllWith_apply (h : Mirrors kit past p)
    (run : AddonProgram A H σ (Except String Unit) → PlatformM A M H σ (Except String Unit)) :
    disableAllWith kit run p =
      shutDownAll kit run ((Flow.listing.pending past).reverse.map Prod.snd)
        { p with enabled := [] } := by
  rw [List.map_reverse, ← h.enabled]
  rfl

theorem tracks_disableAllWith (h : ∀ program, Tracks kit [] (run program) (stages program)) :
    Tracks kit [] (disableAllWith kit run) (disableAllStages kit run stages) := by
  intro past p hlawful hmirrors _ _
  obtain ⟨hallowed, hmirrors'⟩ := hmirrors.withdrawAll hlawful
  obtain ⟨hlawful', hends⟩ := tracks_taking
    (tracks_shutDownAll h (Flow.listing.pending past).reverse) hlawful hallowed hmirrors'
  refine ⟨hlawful', fun a q hx ↦ hends a q ?_⟩
  rwa [hmirrors.disableAllWith_apply run] at hx

end

/-! ## Programs -/

/-- Whatever a request brings about is lawful, however deep addons are enabled and disabled within
each other. -/
theorem tracks_service (kit : AddonKit A M H σ) (handling : Handling H σ) (levels : Nat)
    (request : AddonRequest A H σ) :
    Tracks kit [] (service kit handling levels request)
      (requestStages kit handling levels request) := by
  -- the requests of the programs that a request calls are answered one level below
  induction levels generalizing request with
  | zero =>
    cases request with
    | act request => exact tracks_idle fun p a q h ↦ sameLists_of_inWorld h
    | addKind kind => exact tracks_idle fun p a q h ↦ sameLists_of_addKind h
    | enable | disable | disableAll => exact tracks_idle fun p a q h ↦ nomatch h
  | succ levels ih =>
    cases request with
    | act request => exact tracks_idle fun p a q h ↦ sameLists_of_inWorld h
    | addKind kind => exact tracks_idle fun p a q h ↦ sameLists_of_addKind h
    | enable addon => exact tracks_enableWith (fun program ↦ tracks_run ih program) addon
    | disable id => exact tracks_disableWith (fun program ↦ tracks_run ih program) id
    | disableAll => exact tracks_disableAllWith fun program ↦ tracks_run ih program

theorem tracks_stagesOf (kit : AddonKit A M H σ) (handling : Handling H σ) (levels : Nat)
    (program : AddonProgram A H σ α) :
    Tracks kit [] (program.run (service kit handling levels))
      (stagesOf kit handling levels program) :=
  tracks_run (tracks_service kit handling levels) program

end DialogKit.Platform
