import DialogKit.Addon.Manage
import DialogKit.Proofs.Registry.Runs

/-!
# Runs of programs that manage addons

What each way to manage addons comes to: whose program is run, once and on which platform, and what
becomes of the platform on which that program ends. Apart from the program, one event is reported
and the two lists change, that of the enabled addons and that of the ids that are being enabled. A
program comes through many platforms, its own and those of the addons it has enabled and disabled.
-/

namespace DialogKit.Platform

variable {A M H σ α : Type}

/-- The second platform has the two lists of the first. -/
structure SameLists (p q : Platform A M H σ) : Prop where
  enabled : q.enabled = p.enabled
  starting : q.starting = p.starting

theorem SameLists.trans {p q r : Platform A M H σ} (h : SameLists p q) (h' : SameLists q r) :
    SameLists p r :=
  ⟨h'.enabled.trans h.enabled, h'.starting.trans h.starting⟩

theorem sameLists_of_pure {a b : α} {p q : Platform A M H σ}
    (h : (pure a : PlatformM A M H σ α) p = some (b, q)) : SameLists p q := by
  obtain ⟨_, rfl⟩ := pure_eq_some.1 h
  exact ⟨rfl, rfl⟩

theorem inWorld_eq_some {x : WorldM H σ α} {a : α} {p q : Platform A M H σ} :
    inWorld x p = some (a, q) ↔ ∃ world, x p.world = some (a, world) ∧ { p with world } = q := by
  simp [inWorld, Option.map_eq_some_iff]

theorem sameLists_of_inWorld {x : WorldM H σ α} {a : α} {p q : Platform A M H σ}
    (h : inWorld x p = some (a, q)) : SameLists p q := by
  obtain ⟨world, _, rfl⟩ := inWorld_eq_some.1 h
  exact ⟨rfl, rfl⟩

theorem sameLists_of_addKind {kind : Kind} {p q : Platform A M H σ}
    (h : addKind kind p = some ((), q)) : SameLists p q := by
  obtain ⟨p', _, ⟨⟩, h⟩ := bind_eq_some.1 h
  obtain ⟨kinds, r, hperform, ⟨⟩⟩ := bind_eq_some.1 h
  have hlists := sameLists_of_inWorld hperform
  exact ⟨hlists.enabled, hlists.starting⟩

/-! ## Reports -/

/-- The platform after some more effects. -/
def after (p : Platform A M H σ) (effects : List Effect) : Platform A M H σ :=
  { p with world := { p.world with effects := p.world.effects ++ effects } }

theorem sameLists_after (p : Platform A M H σ) (effects : List Effect) :
    SameLists p (p.after effects) :=
  ⟨rfl, rfl⟩

/-- What is reported of an addon whose id is taken. -/
def skipEvent (kit : AddonKit A M H σ) (addon : A) : Log.Event where
  level := .warn
  target := "dialog_engine::addons"
  message := "addon already loaded, skipping"
  fields := [.bare "addon" (kit.id addon)]

/-- What is reported of an addon whose program for enabling has ended. -/
def startEvent (kit : AddonKit A M H σ) (addon : A) : Except String M → Log.Event
  | .ok _ =>
      { level := .info
        target := "dialog_engine::addons"
        message := "addon enabled"
        fields := [.bare "addon" (kit.id addon), .quoted "version" (kit.version addon)] }
  | .error reason =>
      { level := .error
        target := "dialog_engine::addons"
        message := "failed to enable addon"
        fields := [.bare "addon" (kit.id addon), .bare "error" reason] }

/-- What is reported of an addon whose program for disabling has ended. -/
def stopEvent (kit : AddonKit A M H σ) (addon : A) : Except String Unit → Log.Event
  | .ok () =>
      { level := .info
        target := "dialog_engine::addons"
        message := "addon disabled"
        fields := [.bare "addon" (kit.id addon)] }
  | .error reason =>
      { level := .error
        target := "dialog_engine::addons"
        message := "error disabling addon"
        fields := [.bare "addon" (kit.id addon), .bare "error" reason] }

/-- What is reported of an id that no enabled addon has. -/
def missEvent (id : String) : Log.Event where
  level := .warn
  target := "dialog_engine::addons"
  message := "no such addon loaded"
  fields := [.quoted "addon" id]

variable {kit : AddonKit A M H σ} {p q : Platform A M H σ}

/-- The answer to a request whose addon's program has ended. -/
def reply (kit : AddonKit A M H σ) (addon : A) (ended : Except String α) :
    Except AddonFault Bool :=
  (ended.mapError (⟨kit.id addon, ·⟩)).map fun _ ↦ true

theorem reply_eq_error_iff {addon : A} {ended : Except String α} {fault : AddonFault} :
    reply kit addon ended = .error fault ↔
      ∃ reason, ended = .error reason ∧ ⟨kit.id addon, reason⟩ = fault := by
  cases ended <;> simp [reply, Except.mapError, Except.map]

theorem reply_ne_ok_false (addon : A) (ended : Except String α) :
    reply kit addon ended ≠ .ok false := by
  cases ended <;> simp [reply, Except.mapError, Except.map]

/-! ## Enabling -/

/-- The platform on which the program for enabling runs: the id is reserved. -/
def reserve (p : Platform A M H σ) (id : String) : Platform A M H σ :=
  { p with starting := p.starting ++ [id] }

/-- The platform when the program for enabling has ended: the id is not reserved any more, and the
addon is listed unless the program failed. -/
def conclude (kit : AddonKit A M H σ) (p : Platform A M H σ) (addon : A)
    (ended : Except String M) : Platform A M H σ :=
  { p.after [.log (startEvent kit addon ended)] with
    starting := p.starting.erase (kit.id addon)
    enabled := match ended with
      | .error _ => p.enabled
      | .ok memory => p.enabled ++ [⟨addon, memory⟩] }

section

variable {run : AddonProgram A H σ (Except String M) → PlatformM A M H σ (Except String M)}
  {addon : A} {result : Except AddonFault Bool}

/-- A taken id is refused, and no program runs. -/
theorem enableWith_of_isTaken
    (run : AddonProgram A H σ (Except String M) → PlatformM A M H σ (Except String M))
    (h : isTaken kit p (kit.id addon) = true) :
    enableWith kit run addon p = some (.ok false, p.after [.log (skipEvent kit addon)]) := by
  refine bind_eq_some.2 ⟨p, p, rfl, ?_⟩
  rw [if_pos h]
  rfl

/-- For a free id the program of the addon runs once. -/
theorem enableWith_eq_some (h : isTaken kit p (kit.id addon) = false) :
    enableWith kit run addon p = some (result, q) ↔
      ∃ ended r, run (kit.onEnable addon ⟨kit.id addon, p.apiVersion⟩)
          (p.reserve (kit.id addon)) = some (ended, r) ∧
        reply kit addon ended = result ∧ conclude kit r addon ended = q := by
  constructor
  · intro hx
    obtain ⟨_, _, ⟨⟩, hx⟩ := bind_eq_some.1 hx
    rw [if_neg (by simp [h])] at hx
    obtain ⟨_, _, ⟨⟩, hx⟩ := bind_eq_some.1 hx
    obtain ⟨ended, r, hrun, hx⟩ := bind_eq_some.1 hx
    refine ⟨ended, r, hrun, ?_⟩
    cases ended with
    | error reason => exact Prod.ext_iff.1 (Option.some_inj.1 hx)
    | ok memory => exact Prod.ext_iff.1 (Option.some_inj.1 hx)
  · rintro ⟨ended, r, hrun, rfl, rfl⟩
    refine bind_eq_some.2 ⟨p, p, rfl, ?_⟩
    rw [if_neg (by simp [h])]
    refine bind_eq_some.2 ⟨(), p.reserve (kit.id addon), rfl, bind_eq_some.2 ⟨ended, r, hrun, ?_⟩⟩
    cases ended with
    | error reason => rfl
    | ok memory => rfl

end

/-! ## Disabling -/

/-- The platform on which the program for disabling runs: the addon has left the list. -/
def withdraw (kit : AddonKit A M H σ) (p : Platform A M H σ) (id : String) : Platform A M H σ :=
  { p with enabled := p.enabled.eraseP fun entry ↦ kit.id entry.addon == id }

/-- A call of the program for disabling an addon: the platform on which it is called, and how it
ended. -/
structure Stop (A M H σ : Type) where
  entry : EnabledAddon A M
  platform : Platform A M H σ
  ended : Except String Unit

/-- The calls that are made one after the other on the way from a platform to another. -/
inductive Stops (kit : AddonKit A M H σ)
    (run : AddonProgram A H σ (Except String Unit) → PlatformM A M H σ (Except String Unit)) :
    Platform A M H σ → List (Stop A M H σ) → Platform A M H σ → Prop
  | nil {p : Platform A M H σ} : Stops kit run p [] p
  | cons {entry ended stops} {p q r : Platform A M H σ}
      (hrun : run (kit.onDisable entry.addon entry.memory) p = some (ended, q))
      (hrest : Stops kit run (q.after [.log (stopEvent kit entry.addon ended)]) stops r) :
      Stops kit run p (⟨entry, p, ended⟩ :: stops) r

section

variable {run : AddonProgram A H σ (Except String Unit) → PlatformM A M H σ (Except String Unit)}
  {entry : EnabledAddon A M} {id : String}

theorem shutDown_eq_some {result : Except AddonFault Unit} :
    shutDown kit run entry p = some (result, q) ↔
      ∃ ended r, run (kit.onDisable entry.addon entry.memory) p = some (ended, r) ∧
        ended.mapError (⟨kit.id entry.addon, ·⟩) = result ∧
        r.after [.log (stopEvent kit entry.addon ended)] = q := by
  unfold shutDown
  rw [bind_eq_some]
  refine exists_congr fun ended ↦ exists_congr fun r ↦ and_congr_right fun _ ↦ ?_
  cases ended with
  | error reason => exact Option.some_inj.trans Prod.ext_iff
  | ok _ => exact Option.some_inj.trans Prod.ext_iff

theorem shutDownAll_cons_eq_some {rest : List (EnabledAddon A M)} {count : Nat} :
    shutDownAll kit run (entry :: rest) p = some (count, q) ↔
      ∃ ended r others, run (kit.onDisable entry.addon entry.memory) p = some (ended, r) ∧
        shutDownAll kit run rest (r.after [.log (stopEvent kit entry.addon ended)]) =
          some (others, q) ∧
        others + (if ended.isOk then 1 else 0) = count := by
  rw [shutDownAll]
  simp only [bind_eq_some, shutDown_eq_some]
  constructor
  · rintro ⟨_, _, ⟨ended, r, hrun, rfl, rfl⟩, others, _, hrest, hcount⟩
    refine ⟨ended, r, others, hrun, ?_⟩
    cases ended <;> obtain ⟨rfl, rfl⟩ := pure_eq_some.1 hcount <;> exact ⟨hrest, rfl⟩
  · rintro ⟨ended, r, others, hrun, hrest, rfl⟩
    refine ⟨_, _, ⟨ended, r, hrun, rfl, rfl⟩, others, q, hrest, ?_⟩
    cases ended <;> rfl

/-- However a program ends, the next one has its turn, and those that end well are counted. -/
theorem shutDownAll_eq_some {entries : List (EnabledAddon A M)} {count : Nat} :
    shutDownAll kit run entries p = some (count, q) ↔
      ∃ stops : List (Stop A M H σ), Stops kit run p stops q ∧ stops.map Stop.entry = entries ∧
        stops.countP (fun stop ↦ stop.ended.isOk) = count := by
  constructor
  · intro h
    induction entries generalizing p count with
    | nil =>
      obtain ⟨rfl, rfl⟩ := pure_eq_some.1 h
      exact ⟨[], .nil, rfl, rfl⟩
    | cons entry rest ih =>
      obtain ⟨ended, r, others, hrun, hrest, rfl⟩ := shutDownAll_cons_eq_some.1 h
      obtain ⟨stops, hstops, rfl, rfl⟩ := ih hrest
      exact ⟨⟨entry, p, ended⟩ :: stops, .cons hrun hstops, rfl, by rw [List.countP_cons]⟩
  · rintro ⟨stops, hstops, rfl, rfl⟩
    induction hstops with
    | nil => rfl
    | cons hrun _ ih =>
      rw [List.countP_cons]
      exact shutDownAll_cons_eq_some.2 ⟨_, _, _, hrun, ih, rfl⟩

/-- There is nothing to disable, and no program runs. -/
theorem disableWith_of_none
    (run : AddonProgram A H σ (Except String Unit) → PlatformM A M H σ (Except String Unit))
    (h : p.enabled.find? (fun entry ↦ kit.id entry.addon == id) = none) :
    disableWith kit run id p = some (.ok false, p.after [.log (missEvent id)]) := by
  refine bind_eq_some.2 ⟨p, p, rfl, ?_⟩
  simp only [h]
  rfl

/-- The first addon with the id leaves the list, and its program runs once. -/
theorem disableWith_eq_some {result : Except AddonFault Bool}
    (h : p.enabled.find? (fun entry ↦ kit.id entry.addon == id) = some entry) :
    disableWith kit run id p = some (result, q) ↔
      ∃ ended r, run (kit.onDisable entry.addon entry.memory) (withdraw kit p id) =
          some (ended, r) ∧
        reply kit entry.addon ended = result ∧
        r.after [.log (stopEvent kit entry.addon ended)] = q := by
  constructor
  · intro hx
    obtain ⟨_, _, ⟨⟩, hx⟩ := bind_eq_some.1 hx
    simp only [h] at hx
    obtain ⟨_, _, ⟨⟩, hx⟩ := bind_eq_some.1 hx
    obtain ⟨_, _, hshut, ⟨⟩⟩ := bind_eq_some.1 hx
    obtain ⟨ended, r, hrun, rfl, rfl⟩ := shutDown_eq_some.1 hshut
    exact ⟨ended, r, hrun, rfl, rfl⟩
  · rintro ⟨ended, r, hrun, rfl, rfl⟩
    refine bind_eq_some.2 ⟨p, p, rfl, ?_⟩
    simp only [h]
    have hshut := shutDown_eq_some.2 ⟨ended, r, hrun, rfl, rfl⟩
    exact bind_eq_some.2 ⟨(), withdraw kit p id, rfl, bind_eq_some.2 ⟨_, _, hshut, rfl⟩⟩

end

/-! ## Answering requests -/

/-- How requests are answered within so many levels. -/
def service (kit : AddonKit A M H σ) (handling : Handling H σ) (levels : Nat) :
    (request : AddonRequest A H σ) → PlatformM A M H σ request.Answer :=
  serve (World.dispatch handling levels) (management kit handling levels)

/-- Disabling all addons calls the program of each, in the reverse of the order of the list. -/
theorem disableAll_eq_some {handling : Handling H σ} {levels count : Nat} :
    (management kit handling (levels + 1)).disableAll p = some (count, q) ↔
      ∃ stops : List (Stop A M H σ),
        Stops kit (Program.run (service kit handling levels)) { p with enabled := [] } stops q ∧
        stops.map Stop.entry = p.enabled.reverse ∧
        stops.countP (fun stop ↦ stop.ended.isOk) = count :=
  shutDownAll_eq_some

/-! ## Visited platforms -/

/-- The platforms that a program comes through: the one where it starts, those after its requests,
and those that the programs of the addons it enables and disables come through. -/
inductive Visits (kit : AddonKit A M H σ) (handling : Handling H σ) :
    {α : Type} → Nat → AddonProgram A H σ α → Platform A M H σ → Platform A M H σ → Prop
  | here {α : Type} {levels} {program : AddonProgram A H σ α} {p} :
      Visits kit handling levels program p p
  | onward {α : Type} {levels request}
      {next : AddonRequest.Answer request → AddonProgram A H σ α} {p answer q q'}
      (hserve : service kit handling levels request p = some (answer, q))
      (hnext : Visits kit handling levels (next answer) q q') :
      Visits kit handling levels (.ask request next) p q'
  | enabling {α : Type} {levels addon} {next : Except AddonFault Bool → AddonProgram A H σ α} {p q}
      (hfree : isTaken kit p (kit.id addon) = false)
      (hprogram : Visits kit handling levels
        (kit.onEnable addon ⟨kit.id addon, p.apiVersion⟩) (p.reserve (kit.id addon)) q) :
      Visits kit handling (levels + 1) (.ask (.enable addon) next) p q
  | disabling {α : Type} {levels id} {next : Except AddonFault Bool → AddonProgram A H σ α}
      {p entry q}
      (hfind : p.enabled.find? (fun entry ↦ kit.id entry.addon == id) = some entry)
      (hprogram : Visits kit handling levels (kit.onDisable entry.addon entry.memory)
        (withdraw kit p id) q) :
      Visits kit handling (levels + 1) (.ask (.disable id) next) p q
  | disablingAll {α : Type} {levels} {next : Nat → AddonProgram A H σ α} {p entry q q'}
      (front rest : List (EnabledAddon A M)) (count : Nat)
      (hentries : p.enabled.reverse = front ++ entry :: rest)
      (hfront : shutDownAll kit (Program.run (service kit handling levels)) front
        { p with enabled := [] } = some (count, q))
      (hprogram : Visits kit handling levels (kit.onDisable entry.addon entry.memory) q q') :
      Visits kit handling (levels + 1) (.ask .disableAll next) p q'

end DialogKit.Platform
