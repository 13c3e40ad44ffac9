import DialogKit.Catalog
import DialogKit.Cli.Files
import DialogKit.Engine.Fault
import DialogKit.Engine.SettingsText

/-!
# Loading directories

A directory of dialogs is a catalog: the id of a dialog is the way to its file without the last
extension, and the extension names the format. Files are read in the order of their paths, part by
part, so the catalog does not depend on the order in which they are found; of two files for one id
the later one counts.
-/

namespace DialogKit.Cli

/-- Why a command fails. -/
inductive Failure where
  | unreadable (fault : FileFault)
  | noDirectory (dir : String) (fault : FileFault)
  /-- A file of dialogs or settings does not read. -/
  | badFile (path : String) (fault : Source.Fault)
  | engine (fault : EngineFault)
  /-- Validation found errors where none are allowed. -/
  | invalid (summary : String)
  deriving DecidableEq, Repr

def Failure.message : Failure → String
  | .unreadable fault => "I/O error: " ++ fault.message
  | .noDirectory dir fault =>
      "Failed to read dialog directory: IO error for operation on " ++ dir ++ ": " ++ fault.message
  | .badFile path fault => path ++ ": " ++ fault.pretty
  | .engine fault => fault.pretty
  | .invalid summary => "validation failed: " ++ summary

/-- The name of a file before its last dot, and what follows it; a name that starts with its only
dot has no extension. -/
def splitExtension (name : String) : String × Option String :=
  let extension := (name.toList.reverse.takeWhile (· != '.')).reverse
  let stem := name.toList.take (name.length - extension.length - 1)
  if stem.isEmpty then (name, none) else (String.ofList stem, some (String.ofList extension))

def formatOf? (extension : String) : Option Source.Format :=
  [Source.Format.ron, .json].find? fun format ↦ format.name == extension

/-- The last part of the id of a dialog by the stem of its file. A single dot is no name of its own,
so it keeps the dot before the extension. -/
def nameOfStem (stem : String) : String :=
  if stem == "." then ".." else stem

/-- The id and the format of the dialog in a file, if it is one. -/
def dialogFile? (path : Path) : Option (String × Source.Format) :=
  match path.getLast? with
  | none => none
  | some name =>
      match splitExtension name with
      | (_, none) => none
      | (stem, some extension) =>
          (formatOf? extension).map fun format ↦
            (String.intercalate "/" (path.dropLast ++ [nameOfStem stem]), format)

/-- The order of paths: part by part. -/
def pathLE : Path → Path → Bool
  | [], _ => true
  | _ :: _, [] => false
  | a :: as, b :: bs => if a == b then pathLE as bs else a < b

/-- The path of a file as it is shown: the directory as given and the way from it. -/
def shownPath (dir : String) (path : Path) : String :=
  if dir.toList.getLast? = some '/' then dir ++ String.intercalate "/" path
  else String.intercalate "/" (dir :: path)

/-- Adds the dialog of a file to a catalog. -/
def addFile (dir : String) (catalog : Catalog) (file : FoundFile) : Except Failure Catalog :=
  match dialogFile? file.path with
  | none => .ok catalog
  | some (id, format) => do
      let source ← file.text.mapError .unreadable
      (catalog.insertText id format source).mapError (.badFile (shownPath dir file.path))

/-- The catalog of the files that are found below a directory. -/
def catalogOf (dir : String) (files : List FoundFile) : Except Failure Catalog :=
  (files.mergeSort fun a b ↦ pathLE a.path b.path).foldlM (addFile dir) Catalog.empty

def loadDirectory (disk : Disk) (dir : String) : Except Failure Catalog := do
  catalogOf dir (← (disk.walk dir).mapError (.noDirectory dir))

/-- The settings of a file, or the defaults. -/
def loadSettings (disk : Disk) : Option String → Except Failure Settings
  | none => .ok {}
  | some path => do
      let source ← (disk.read path).mapError .unreadable
      (Settings.ofRonText source).mapError (.badFile path)

end DialogKit.Cli
