/-!
# Help texts

What the program prints when it is asked for help or for its version.
-/

namespace DialogKit.Cli

def programName : String := "dialogs"

def programVersion : String := "0.0.1"

def versionText : String :=
  programName ++ " " ++ programVersion ++ "\n"

/-- Something that help lists, with what it is for. -/
structure HelpEntry where
  term : String
  purpose : String

/-- The entries under a heading, with their purposes in one column. -/
def helpSection (heading : String) (entries : List HelpEntry) : String :=
  let width := (entries.map fun entry ↦ entry.term.length).foldl max 0
  let row (entry : HelpEntry) : String :=
    let gap := String.ofList (List.replicate (width - entry.term.length + 2) ' ')
    "  " ++ entry.term ++ gap ++ entry.purpose ++ "\n"
  heading ++ ":\n" ++ String.join (entries.map row)

def helpText (purpose usage : String) (sections : List String) : String :=
  purpose ++ "\n\nUsage: " ++ programName ++ " " ++ usage ++ "\n\n" ++
    String.intercalate "\n" sections

def dirEntry : HelpEntry :=
  ⟨"<DIR>", "Root directory holding `*.ron` and `*.json` dialog files"⟩

def idEntry : HelpEntry :=
  ⟨"<ID>", "Dialog id, e.g. `templates/confirmation`"⟩

def settingsEntry : HelpEntry :=
  ⟨"    --settings <FILE>", "Engine settings file in RON syntax"⟩

def helpEntry : HelpEntry :=
  ⟨"-h, --help", "Print help"⟩

def rootHelp : String :=
  helpText "Inspect, validate and compile dialog configuration" "[OPTIONS] <COMMAND>"
    [helpSection "Commands"
      [⟨"list", "List dialog ids found under a directory"⟩,
        ⟨"validate", "Validate every dialog under a directory"⟩,
        ⟨"show", "Compile one dialog and print it as RON"⟩,
        ⟨"help", "Print this message or the help of the given subcommand(s)"⟩],
    helpSection "Options"
      [⟨"    --trace", "Set global log level to trace (our crates only)"⟩,
        ⟨"    --debug", "Set global log level to debug (our crates only)"⟩,
        ⟨"    --log-level <LOG_LEVEL>",
          "Set a single global log level for our crates (error|warn|info|debug|trace)"⟩,
        ⟨"    --log-filter <LOG_FILTER>",
          "Set an explicit tracing filter directive (overrides other flags) e.g. " ++
            "\"dialog_config=trace,dialog_actions=debug\""⟩,
        settingsEntry, helpEntry, ⟨"-V, --version", "Print version"⟩]]

def listHelp : String :=
  helpText "List dialog ids found under a directory" "list [OPTIONS] <DIR>"
    [helpSection "Arguments" [dirEntry], helpSection "Options" [settingsEntry, helpEntry]]

def validateHelp : String :=
  helpText "Validate every dialog under a directory" "validate [OPTIONS] <DIR>"
    [helpSection "Arguments" [dirEntry],
      helpSection "Options"
        [⟨"    --strict", "Exit with an error when any validation error is found"⟩, settingsEntry,
          helpEntry]]

def showHelp : String :=
  helpText "Compile one dialog and print it as RON" "show [OPTIONS] <DIR> <ID>"
    [helpSection "Arguments" [dirEntry, idEntry],
      helpSection "Options" [settingsEntry, helpEntry]]

def helpHelp : String :=
  helpText "Print this message or the help of the given subcommand(s)" "help [COMMAND]..."
    [helpSection "Arguments" [⟨"[COMMAND]...", "Print help for the subcommand(s)"⟩]]

end DialogKit.Cli
