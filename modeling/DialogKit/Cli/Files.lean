import DialogKit.Text.Lines

/-!
# Files

The files that the program can see. A path is followed part by part from the working directory;
parts that are empty or a single dot stay where they are, and two dots lead one step back. A
directory is there if some file lies below it.
-/

namespace DialogKit.Cli

inductive FileFault where
  | missing
  | notADirectory
  | isADirectory
  | other (text : String)
  deriving DecidableEq, Repr

def FileFault.message : FileFault → String
  | .missing => "No such file or directory (os error 2)"
  | .notADirectory => "Not a directory (os error 20)"
  | .isADirectory => "Is a directory (os error 21)"
  | .other text => text

/-- A path as the parts between its slashes. -/
abbrev Path := List String

/-- A file below a directory: the way from the directory to it, and its text. -/
structure FoundFile where
  path : Path
  text : Except FileFault String

/-- What the program reads: a file by its path, and all files below a directory, in any order. -/
structure Disk where
  read : String → Except FileFault String
  walk : String → Except FileFault (List FoundFile)

/-- Files by the way to them from the working directory. -/
abbrev FileList := List (Path × String)

namespace FileList

/-- What stands at a place. -/
inductive Node where
  | file (text : String)
  | directory
  | nothing

def node (files : FileList) (place : Path) : Node :=
  match files.find? fun entry ↦ entry.1 == place with
  | some entry => .file entry.2
  | none =>
      if place.isEmpty || files.any fun entry ↦ place.isPrefixOf entry.1 then .directory
      else .nothing

/-- Follows the parts of a path from a place, which is read backwards. -/
def follow (files : FileList) : Path → List String → Except FileFault Path
  | place, [] => .ok place.reverse
  | place, part :: rest =>
      match files.node place.reverse with
      | .nothing => .error .missing
      | .file _ => .error .notADirectory
      | .directory =>
          if part.isEmpty || part == "." then follow files place rest
          else if part == ".." then follow files (place.drop 1) rest
          else follow files (part :: place) rest

/-- The place that a path leads to; absolute paths lead nowhere. -/
def place (files : FileList) (path : String) : Except FileFault Path :=
  match Text.split '/' path with
  | "" :: _ => .error .missing
  | parts => files.follow [] parts

def read (files : FileList) (path : String) : Except FileFault String := do
  match files.node (← files.place path) with
  | .file text => return text
  | .directory => throw .isADirectory
  | .nothing => throw .missing

/-- The files below a place. A file is below itself, with an empty way to it. -/
def walk (files : FileList) (path : String) : Except FileFault (List FoundFile) := do
  let place ← files.place path
  match files.node place with
  | .nothing => throw .missing
  | .file text => return [⟨[], .ok text⟩]
  | .directory =>
      return files.filterMap fun entry ↦
        if place.isPrefixOf entry.1 then some ⟨entry.1.drop place.length, .ok entry.2⟩ else none

/-- The disk that holds the given files and no others. -/
def disk (files : FileList) : Disk :=
  { read := files.read, walk := files.walk }

end FileList

end DialogKit.Cli
