import DialogKit.Json.Writer
import DialogKit.Registry.Dispatch

/-!
# Scripted handlers

Handlers written down as lists of steps, which are done in order until one of them ends the
handler. A script that delivers a further action counts how many deliveries are running within one
another, and fails rather than start a fourth one.
-/

namespace DialogKit

namespace Script

/-- The views of a submitted value. -/
inductive View where
  | text
  | int
  | float
  | bool
  | has
  deriving DecidableEq, Repr

inductive Step where
  | reply (text : String)
  /-- Replies with the key and the id of the player. -/
  | whoami
  /-- Replies with a submitted value; the handler fails if it has no such view. -/
  | read (view : View) (name : String)
  | fail (fault : HandlerFault)
  | panic (message : Option String)
  /-- Takes back the registration with the given number, if there is one. -/
  | unregister (id : Nat)
  | register (key : String) (script : List Step)
  | unregisterAll (key : String)
  | clear
  | count (key : String)
  | dispatch (key : String)

end Script

/-- A scripted handler. -/
abbrev Script := List Script.Step

namespace Script

/-- The state of the host that scripts use: how many deliveries they have started that are still
running. -/
abbrev Running := Nat

/-- How deep scripts may deliver. -/
def nestingLimit : Nat := 3

/-- A floating point number within a text is an object with its plain text. -/
def floatText (x : Float) : String :=
  "\x7b\"f\":" ++ Json.renderString (Decimal.text x) ++ "\x7d"

/-- The text of a view of a submitted value, if the value has that view. -/
def View.read? (view : View) (payload : Payload) (name : String) : Option String :=
  match view with
  | .text => (payload.text? name).map Json.renderString
  | .int => (payload.int? name).map fun i ↦ toString i.toInt
  | .float => (payload.float? name).map floatText
  | .bool => (payload.bool? name).map fun b ↦ if b then "true" else "false"
  | .has => some (if payload.has name then "true" else "false")

/-- A program of a script. -/
abbrev M := Program (Request Script Running) Request.Answer

/-- Delivers an action without submitted values for the player of a context. -/
def nested (cx : Context) (key : Key) (rest : M Ending) : M Ending :=
  .ask (.update id) fun running ↦
    if nestingLimit ≤ running then .finish (.failed (.other "too deep"))
    else
      .ask (.update (· + 1)) fun _ ↦
        .ask (.dispatch ⟨key, Payload.empty, cx.player, true⟩) fun outcome ↦
          .ask (.update (· - 1)) fun _ ↦
            .ask (.note ("nested " ++ toString outcome.invoked ++ " " ++ toString outcome.failed))
              fun _ ↦ rest

/-- Goes on with the key of a text, or with the rest where the text is no key. -/
def withKey (text : String) (rest : M Ending) (step : Key → M Ending) : M Ending :=
  match Key.parse? text with
  | .ok key => step key
  | .error _ => rest

/-- Goes on after a note that ends with a count. -/
def noteCount (label : String) (rest : M Ending) (count : Nat) : M Ending :=
  .ask (.note (label ++ " " ++ toString count)) fun _ ↦ rest

/-- What a script does with a triggered action. -/
def program (cx : Context) : Script → M Ending
  | [] => .finish .done
  | step :: script =>
      let rest := program cx script
      match step with
      | .reply text => .ask (.reply cx text) fun _ ↦ rest
      | .whoami => .ask (.reply cx (cx.key.text ++ " " ++ cx.player.id.text)) fun _ ↦ rest
      | .read view name =>
          match view.read? cx.payload name with
          | some text => .ask (.reply cx (name ++ "=" ++ text)) fun _ ↦ rest
          | none => .finish (.failed (.payload name))
      | .fail fault => .finish (.failed fault)
      | .panic message => .finish (.panicked message)
      | .unregister id => .ask (.unregister id) fun _ ↦ rest
      | .register text inner =>
          withKey text rest fun key ↦
            .ask (.register key inner) fun id ↦ noteCount "registered" rest (id - 1)
      | .unregisterAll text =>
          withKey text rest fun key ↦ .ask (.unregisterAll key) (noteCount "removed" rest)
      | .clear => .ask .clear (noteCount "cleared" rest)
      | .count text => withKey text rest fun key ↦ .ask (.count key) (noteCount "count" rest)
      | .dispatch text => withKey text rest (nested cx · rest)

def handling : Handling Script Running := fun script cx ↦ program cx script

/-- Enough levels for scripts: the delivery from outside, those within one another, and one more
that only fails. -/
def levels : Nat := nestingLimit + 2

end Script

end DialogKit
