import DialogKit.Command.Placeholder
import DialogKit.Definition.Basic
import DialogKit.Effect

/-!
# Running commands

A command template is resolved and handed to the host. Commands of a player need a viewer, and a
command for the console is refused while it still holds a percent sign; then the host gets nothing.
-/

namespace DialogKit

namespace Command

inductive Fault where
  /-- A console command still holds placeholders. -/
  | unresolved (command : String)
  /-- There is no player on whose behalf the action could be done. -/
  | noPlayer (action : String)
  deriving DecidableEq, Repr

def Fault.message : Fault → String
  | .unresolved command =>
      "refusing to run console command with unresolved placeholders: " ++ command
  | .noPlayer action => "cannot run '" ++ action ++ "' without a player"

/-- The message with a hint. -/
def Fault.pretty : Fault → String
  | fault@(.unresolved _) =>
      fault.message ++ "\nCheck the placeholder names or install a resolver that provides them"
  | fault@(.noPlayer _) => fault.message

/-- Where commands go. -/
inductive Sink where
  | host
  /-- Commands are only reported. -/
  | logOnly
  deriving DecidableEq, Repr

/-- The event that reports a command that goes nowhere. -/
def Sent.event : Sent → Log.Event
  | .player viewer command =>
      ⟨.debug, "dialog_engine::commands", "player command (not executed)",
        [.bare "player" viewer.name, .quoted "command" command]⟩
  | .console command =>
      ⟨.debug, "dialog_engine::commands", "console command (not executed)",
        [.quoted "command" command]⟩
  | .suggestion viewer command =>
      ⟨.debug, "dialog_engine::commands", "command suggestion (not sent)",
        [.bare "player" viewer.name, .quoted "command" command]⟩

def Sink.send (sink : Sink) (sent : Sent) : Effectful Unit :=
  match sink with
  | .host => Journal.note (.command sent)
  | .logOnly => Journal.note (.log sent.event)

structure Runner where
  resolve : Resolver := ({} : Placeholders).resolve
  sink : Sink := .logOnly

namespace Runner

def report (level : Log.Level) (message : String) (fields : List Log.Field) :
    ExceptT Fault (Journal Effect) Unit :=
  ExceptT.lift (Effectful.log level "dialog_engine::commands" message fields)

/-- Resolves a template and runs it; gives the command that ran. -/
def run (r : Runner) (template : String) (scope : CommandScope) (viewer : Option Viewer) :
    ExceptT Fault (Journal Effect) String := do
  let command := r.resolve template viewer
  match scope with
  | .player =>
      match viewer with
      | none =>
          report .warn "cannot run player command: no player" [.bare "command" command]
          throw (.noPlayer command)
      | some v =>
          report .debug "running player command"
            [.bare "player" v.name, .bare "command" command]
          ExceptT.lift (r.sink.send (.player v command))
          return command
  | .console =>
      if hasPlaceholder command then
        report .warn "refusing console command with unresolved placeholders"
          [.bare "command" command]
        throw (.unresolved command)
      else
        report .debug "running console command" [.bare "command" command]
        ExceptT.lift (r.sink.send (.console command))
        return command

/-- Resolves a template and suggests it to a viewer; gives the suggestion. -/
def suggest (r : Runner) (template : String) (viewer : Viewer) : Effectful String := do
  let command := r.resolve template (some viewer)
  r.sink.send (.suggestion viewer command)
  return command

end Runner

end Command

end DialogKit
