import DialogKit.Cli.Run

/-!
# The program

Reads the files that the arguments name, runs the program on them, and prints the result.
-/

open DialogKit.Cli

namespace DialogKit.Main

def faultOf : IO.Error → FileFault
  | .noFileOrDirectory _ _ _ => .missing
  | .inappropriateType _ 20 _ => .notADirectory
  | .inappropriateType _ 21 _ => .isADirectory
  | fault => .other (toString fault)

def readText (path : String) : IO (Except FileFault String) := do
  match ← (IO.FS.readFile path).toBaseIO with
  | .ok text => return .ok text
  | .error fault => return .error (faultOf fault)

/-- The files at and below a place, with the way to each of them. -/
partial def filesBelow (entry : IO.FS.DirEntry) (way : Path) : IO (List FoundFile) := do
  if ← entry.path.isDir then
    let entries ← entry.path.readDir
    let found ← entries.toList.mapM fun inner ↦ filesBelow inner (way ++ [inner.fileName])
    return found.flatten
  else
    return [⟨way, ← readText entry.path.toString⟩]

def walk (dir : String) : IO (Except FileFault (List FoundFile)) := do
  let root : IO.FS.DirEntry := ⟨".", dir⟩
  match ← root.path.metadata.toBaseIO with
  | .error fault => return .error (faultOf fault)
  | .ok _ => return .ok (← filesBelow root [])

/-- The files that an invocation names. -/
def diskFor (invocation : Invocation) : IO Disk := do
  let settings ← match invocation.settings with
    | some path => readText path
    | none => pure (.error .missing)
  let files ← walk invocation.command.dir
  return { read := fun _ ↦ settings, walk := fun _ ↦ files }

/-- The files that arguments name. -/
def diskForArguments (args : List String) : IO Disk :=
  match wish args with
  | .run invocation => diskFor invocation
  | .print _ | .refused => return (⟨fun _ ↦ .error .missing, fun _ ↦ .error .missing⟩ : Disk)

end DialogKit.Main

def main (args : List String) : IO UInt32 := do
  let result := run (← DialogKit.Main.diskForArguments args) args
  (← IO.getStdout).putStr result.output
  (← IO.getStderr).putStr result.errors
  return result.code
