import DialogKit.Cli.Usage
import DialogKit.LogFilter
import DialogKit.Text.Lines

/-!
# Arguments

The arguments of the program: options about the log, a settings file, and one command with its own
arguments. The settings file may be named before or after the command, options about the log only
before it. Asking for help wins over what follows; anything else that does not fit is refused.
-/

namespace DialogKit.Cli

inductive Command where
  | list (dir : String)
  | validate (dir : String) (strict : Bool)
  | show (dir id : String)
  deriving DecidableEq, Repr

def Command.dir : Command → String
  | .list dir | .validate dir _ | .show dir _ => dir

structure Invocation where
  log : LogFilter
  settings : Option String
  command : Command
  deriving DecidableEq, Repr

/-- What the arguments ask for. -/
inductive Wish where
  | run (invocation : Invocation)
  /-- Prints a text and does nothing else. -/
  | print (text : String)
  | refused
  deriving DecidableEq, Repr

/-- One argument, by its form. -/
inductive Word where
  /-- Two hyphens and a name, perhaps with a value. -/
  | long (name : String) (value : Option String)
  /-- A hyphen and a letter. -/
  | short (letter : Char)
  /-- Two hyphens alone: no more options follow. -/
  | stop
  | plain (text : String)
  deriving DecidableEq, Repr

/-- A name, and the value behind an equals sign. -/
def splitValue (cs : List Char) : Word :=
  match cs.dropWhile (· != '=') with
  | [] => .long (String.ofList cs) none
  | _ :: value => .long (String.ofList (cs.takeWhile (· != '='))) (some (String.ofList value))

def Word.of (arg : String) : Word :=
  match arg.toList with
  | ['-', '-'] => .stop
  | '-' :: '-' :: cs => splitValue cs
  | '-' :: letter :: _ => .short letter
  | _ => .plain arg

/-- The value of an option: behind its equals sign, or the next argument if that is no option. -/
def takeValue (value : Option String) (rest : List String) : Option (String × List String) :=
  match value, rest with
  | some value, _ => some (value, rest)
  | none, next :: rest =>
      match Word.of next with
      | .plain text => some (text, rest)
      | _ => none
  | none, [] => none

/-- A path that names something. -/
def takePath (value : Option String) (rest : List String) : Option (String × List String) :=
  (takeValue value rest).filter fun (path, _) ↦ !path.isEmpty

/-- The commands by their names, with how many arguments each takes and its help. -/
structure CommandForm where
  name : String
  arity : Nat
  strict : Bool
  help : String
  make : List String → Bool → Option Command

def commandForms : List CommandForm :=
  [{ name := "list", arity := 1, strict := false, help := listHelp
     make := fun
       | [dir], _ => some (.list dir)
       | _, _ => none },
    { name := "validate", arity := 1, strict := true, help := validateHelp
      make := fun
        | [dir], strict => some (.validate dir strict)
        | _, _ => none },
    { name := "show", arity := 2, strict := false, help := showHelp
      make := fun
        | [dir, id], _ => some (.show dir id)
        | _, _ => none }]

/-- Whether the choices about the log go together. -/
def logChoicesFit (log : LogFilter) : Bool :=
  let others := log.level.isSome || log.filter.isSome
  !(log.trace && log.debug) && !(log.trace && others) && !(log.debug && others)

/-- What is read behind a command. -/
structure CommandWords where
  settings : Option String := none
  strict : Bool := false
  /-- The arguments of the command, the last one first. -/
  args : List String := []

/-- Takes one more argument of a command. The first one names a directory. -/
def CommandWords.add (form : CommandForm) (words : CommandWords) (arg : String) :
    Option CommandWords :=
  if form.arity ≤ words.args.length then none
  else if words.args.isEmpty && arg.isEmpty then none
  else some { words with args := arg :: words.args }

/-- The arguments behind two hyphens: none of them is an option. -/
def CommandWords.addAll (form : CommandForm) (words : CommandWords) (args : List String) :
    Option CommandWords :=
  args.foldlM (CommandWords.add form) words

/-- The wish that the words behind a command make. -/
def CommandWords.wish (form : CommandForm) (log : LogFilter) (settings : Option String)
    (words : CommandWords) : Wish :=
  match form.make words.args.reverse words.strict with
  | some command =>
      if logChoicesFit log then .run { log, settings := words.settings.or settings, command }
      else .refused
  | none => .refused

/-- Reads the words behind a command; `bound` is more than their count. -/
def readCommand (form : CommandForm) (log : LogFilter) (settings : Option String) :
    Nat → CommandWords → List String → Wish
  | 0, _, _ => .refused
  | _ + 1, words, [] => words.wish form log settings
  | bound + 1, words, arg :: rest =>
      match Word.of arg with
      | .stop =>
          match words.addAll form rest with
          | some words => words.wish form log settings
          | none => .refused
      | .short letter => if letter == 'h' then .print form.help else .refused
      | .plain text =>
          match words.add form text with
          | some words => readCommand form log settings bound words rest
          | none => .refused
      | .long "help" none => .print form.help
      | .long "strict" none =>
          if form.strict && !words.strict then
            readCommand form log settings bound { words with strict := true } rest
          else .refused
      | .long "settings" value =>
          match words.settings, takePath value rest with
          | none, some (path, rest) =>
              readCommand form log settings bound { words with settings := some path } rest
          | _, _ => .refused
      | .long _ _ => .refused

/-- The words behind the command for help. -/
def readHelp : List String → Wish
  | [] => .print rootHelp
  | [name] =>
      match commandForms.find? fun form ↦ form.name == name with
      | some form => .print form.help
      | none => if name == "help" then .print helpHelp else .refused
  | _ => .refused

/-- Reads the arguments; `bound` is more than their count. -/
def readArguments : Nat → LogFilter → Option String → List String → Wish
  | 0, _, _, _ => .refused
  | _ + 1, _, _, [] => .refused
  | bound + 1, log, settings, arg :: rest =>
      match Word.of arg with
      | .stop => .refused
      | .short letter =>
          if letter == 'h' then .print rootHelp
          else if letter == 'V' then .print versionText
          else .refused
      | .plain name =>
          match commandForms.find? fun form ↦ form.name == name with
          | some form => readCommand form log settings (rest.length + 1) {} rest
          | none => if name == "help" then readHelp rest else .refused
      | .long "help" none => .print rootHelp
      | .long "version" none => .print versionText
      | .long "trace" none =>
          if log.trace then .refused
          else readArguments bound { log with trace := true } settings rest
      | .long "debug" none =>
          if log.debug then .refused
          else readArguments bound { log with debug := true } settings rest
      | .long "log-level" value =>
          match log.level, takeValue value rest with
          | none, some (level, rest) =>
              readArguments bound { log with level := some level } settings rest
          | _, _ => .refused
      | .long "log-filter" value =>
          match log.filter, takeValue value rest with
          | none, some (filter, rest) =>
              readArguments bound { log with filter := some filter } settings rest
          | _, _ => .refused
      | .long "settings" value =>
          match settings, takePath value rest with
          | none, some (path, rest) => readArguments bound log (some path) rest
          | _, _ => .refused
      | .long _ _ => .refused

/-- What the arguments ask for. -/
def wish (args : List String) : Wish :=
  readArguments (args.length + 1) {} none args

end DialogKit.Cli
