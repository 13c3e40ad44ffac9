import DialogKit.Journal
import DialogKit.Text.Blank
import DialogKit.Text.Casing
import DialogKit.Text.Quoted

/-!
# Log events

What the library reports on the side: events with a level, the part of the program they come from,
a message and named fields. They are values; whoever runs a computation decides what becomes of
them.
-/

namespace DialogKit

namespace Log

/-- Levels from the most severe on. -/
inductive Level where
  | error
  | warn
  | info
  | debug
  | trace
  deriving DecidableEq, Repr

def Level.name : Level → String
  | .error => "ERROR"
  | .warn => "WARN"
  | .info => "INFO"
  | .debug => "DEBUG"
  | .trace => "TRACE"

def Level.all : List Level := [.error, .warn, .info, .debug, .trace]

/-- How far a level is from the most severe one. -/
def Level.rank : Level → Nat
  | .error => 0
  | .warn => 1
  | .info => 2
  | .debug => 3
  | .trace => 4

/-- A named value of an event; texts may stand in quotes, in which nothing is escaped. -/
inductive Field where
  | bare (name text : String)
  | quoted (name text : String)
  deriving DecidableEq, Repr

def Field.text : Field → String
  | .bare name text => name ++ "=" ++ text
  | .quoted name text => name ++ "=\"" ++ text ++ "\""

def Field.nat (name : String) (n : Nat) : Field :=
  .bare name (toString n)

structure Event where
  level : Level
  /-- The part of the program that reports the event. -/
  target : String
  message : String
  fields : List Field := []
  deriving DecidableEq, Repr

/-- The fields in one line, without blanks at its end. -/
def Event.fieldText (e : Event) : String :=
  Text.trimEnd (String.intercalate " " (e.fields.map Field.text))

/-- An event in one line. -/
def Event.line (e : Event) : String :=
  let fields := e.fieldText
  "level=" ++ e.level.name ++ " target=" ++ e.target ++ " msg=" ++ Text.quoted e.message ++
    if fields.isEmpty then "" else " " ++ fields

/-- The events at a level or more severe. -/
def atLeast (level : Level) (events : List Event) : List Event :=
  events.filter fun e ↦ e.level.rank ≤ level.rank

/-- How many events each level has, from the most severe to the given one. -/
def counts (level : Level) (events : List Event) : List Nat :=
  (Level.all.filter fun l ↦ l.rank ≤ level.rank).map fun l ↦
    (events.filter fun e ↦ e.level == l).length

end Log

/-- A computation that reports log events. -/
abbrev Logged (α : Type) := Journal Log.Event α

namespace Log

def emit (level : Level) (target message : String) (fields : List Field := []) : Logged Unit :=
  Journal.note ⟨level, target, message, fields⟩

end Log

end DialogKit
