import DialogKit.Addon.Manage
import DialogKit.Compile.Dialog
import DialogKit.Engine.Fault
import DialogKit.Engine.Settings
import DialogKit.Validation.Check

/-!
# Engines

One value that holds everything about the dialogs of a host: settings, catalog, kinds, listeners and
addons. Opening a dialog compiles it; under a strict policy a dialog with validation errors is
refused before.
-/

namespace DialogKit

/-- What handlers and addons do. -/
structure Behaviour (A M H σ : Type) where
  kit : AddonKit A M H σ
  handling : Handling H σ

structure Engine (A M H σ : Type) where
  settings : Settings
  catalog : Catalog
  host : Host
  runner : Command.Runner
  /-- Whether replies of handlers reach the players. -/
  replies : Bool
  platform : Platform A M H σ

/-- What an engine is built from. -/
structure EngineParts where
  settings : Settings := {}
  catalog : Catalog := Catalog.empty
  host : Host := {}
  runner : Command.Runner := {}
  replies : Bool := false
  /-- Takes the place of the built-in kinds. -/
  kinds : Option (Logged KindSet) := none

/-- A computation on an engine; there is no result if it needs too many levels. -/
abbrev EngineM (A M H σ : Type) := StateT (Engine A M H σ) Option

namespace Engine

variable {A M H σ : Type}

def createdEvent (parts : EngineParts) : Log.Event where
  level := .info
  target := "dialog_engine::engine"
  message := "dialog engine created"
  fields := [.nat "dialogs" parts.catalog.size,
    .bare "policy" (Settings.policyDebug parts.settings.validation)]

/-- The kinds of an engine. The built-in ones are set up first even if others take their place. -/
def kindsOf (parts : EngineParts) : Logged KindSet := do
  let kinds ← KindSet.builtin
  parts.kinds.getD (pure kinds)

/-- Builds an engine without listeners and addons. -/
def build (parts : EngineParts) (host : σ) : Engine A M H σ :=
  let kinds := do
    let kinds ← kindsOf parts
    Journal.note (createdEvent parts)
    return kinds
  let world : World H σ := ⟨Registry.empty, host, kinds.notes.map .log⟩
  { settings := parts.settings
    catalog := parts.catalog
    host := parts.host
    runner := parts.runner
    replies := parts.replies
    platform := { world, kinds := kinds.result, apiVersion := parts.settings.reportedVersion } }

def registry (e : Engine A M H σ) : Registry H :=
  e.platform.world.registry

def kinds (e : Engine A M H σ) : KindSet :=
  e.platform.kinds

def onPlatform {α : Type} (x : PlatformM A M H σ α) : EngineM A M H σ α := fun e ↦
  (x e.platform).map fun (result, platform) ↦ (result, { e with platform })

def inWorld {α : Type} (x : WorldM H σ α) : EngineM A M H σ α :=
  onPlatform (Platform.inWorld x)

def perform {α : Type} (x : Effectful α) : EngineM A M H σ α :=
  inWorld (World.perform x)

def report (level : Log.Level) (message : String) (fields : List Log.Field) :
    EngineM A M H σ Unit :=
  perform (Effectful.log level "dialog_engine::engine" message fields)

/-- The compiler for the dialogs of the catalog. -/
def compiler (e : Engine A M H σ) : Compiler :=
  { catalog := e.catalog, kinds := e.kinds, host := e.host }

/-- The report on one dialog, if it is known. -/
def validateDialog (e : Engine A M H σ) (id : String) : Option Validation.Report :=
  (e.catalog.get? id).map (Validation.dialog e.host.format id)

/-- The report on all dialogs. -/
def validate (e : Engine A M H σ) : Validation.Report :=
  Validation.catalog e.host.format e.catalog

/-- The report that keeps a dialog from being opened, if one does. -/
def blocking? (e : Engine A M H σ) (id : String) : Option Validation.Report :=
  (e.validateDialog id).filter e.settings.validation.blocks

/-- Opens a dialog, with the log of doing so. -/
def opening (e : Engine A M H σ) (id : String) : Logged (Except EngineFault Definition) :=
  match e.blocking? id with
  | some found => do
      found.log
      Log.emit .warn "dialog_engine::engine" "dialog blocked by validation"
        [.quoted "dialog" id, .nat "errors" (found.count .error)]
      return .error (.blocked id (found.count .error))
  | none => do
      match ← (e.compiler.compile id).run with
      | .error fault => return .error (.compile fault)
      | .ok dialog =>
          Log.emit .debug "dialog_engine::engine" "opened dialog" [.quoted "dialog" id]
          return .ok dialog

/-- Opens a dialog. -/
def openDialog (id : String) : EngineM A M H σ (Except EngineFault Definition) := do
  perform (.ofLogged ((← get).opening id))

/-- Opens the dialog that the settings name. -/
def openDefault : EngineM A M H σ (Except EngineFault Definition) := do
  match (← get).settings.defaultDialog with
  | some id => openDialog id
  | none => return .error .noDefaultDialog

/-- Replaces the catalog; the report on it is empty unless the settings ask for one. -/
def reload (catalog : Catalog) : EngineM A M H σ Validation.Report := do
  let e ← get
  let found :=
    if e.settings.validateOnReload then Validation.catalog e.host.format catalog
    else Validation.Report.empty
  if e.settings.validateOnReload then perform (.ofLogged found.log)
  modify fun e ↦ { e with catalog }
  report .info "dialog catalog reloaded" [.nat "dialogs" catalog.size]
  return found

/-- Adds a kind, or replaces the one of the same name. -/
def addKind (kind : Kind) : EngineM A M H σ Unit :=
  onPlatform (Platform.addKind kind)

/-- How an engine shows in diagnostics. -/
def debug (e : Engine A M H σ) : String :=
  "DialogEngine \x7b settings: " ++ e.settings.debug ++ ", dialogs: " ++
    toString e.catalog.size ++ ", kinds: [" ++
    String.intercalate ", " (e.kinds.names.map Text.quoted) ++ "], registry: " ++
    e.registry.debug ++ ", .. \x7d"

end Engine

end DialogKit
