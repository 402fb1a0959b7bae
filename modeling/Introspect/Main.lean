import Introspect.Binding.CommandLine

/-!
# The program

Takes the files of a run from the disk, does the run on them, and puts back what it has written.
-/

namespace Introspect.Program

open Binding Storage

/-- The bytes of a file. -/
def readFile? (path : String) : IO (Option Text.Utf8.Bytes) := do
  try
    return some (← IO.FS.readBinFile path).toList
  catch _ => return none

/-- Whether a directory stands at a path. -/
def isDirectory (path : String) : IO Bool := do ((← IO.currentDir) / path).isDir

/-- Where a path leads, from the top of the file system. -/
def absolute (path : String) : IO String := return ((← IO.currentDir) / path).toString

/-- Adds what stands at a path, and the directories above it, to a disk. -/
def look (d : Disk) (path : String) : IO Disk := do
  let mut d := d
  for p in (Disk.ancestors path (path.length + 1)).reverse do
    match d.resolve p with
    | .error _ => pure ()
    | .ok l =>
        if ← isDirectory p then d := d.put l .directory
        else if let some bytes ← readFile? p then d := d.put l (.file bytes)
  return d

/-- Puts back a file that the run has written. -/
def restore (before after : Disk) (path : String) : IO Unit := do
  match after.readBytes path with
  | .error _ => return
  | .ok bytes =>
      if (before.readBytes path).toOption = some bytes then return
      IO.FS.createDirAll (Disk.parent path)
      IO.FS.writeBinFile path ⟨bytes.toArray⟩

/-- A run on the real files. -/
def runFiles (o : Options) : IO UInt32 := do
  let here : Options :=
    { o with
      input := ← absolute o.input
      output := ← absolute o.output
      config := ← o.config.mapM absolute
      state := ← o.state.mapM absolute }
  let before ← ([here.input, here.output] ++ here.config.toList ++ here.state.toList).foldlM look {}
  let (result, after) := run before here
  for path in here.output :: here.state.toList do
    restore before after path
  match result with
  | .ok stats =>
      IO.println stats.text
      return 0
  | .error e =>
      IO.eprintln
        s!"Error: failed to generate bindings from {o.input}\n\nCaused by:\n    {e.message}"
      return 1

end Introspect.Program

open Introspect.Binding (Command) in
/-- Runs the command line: help and version, a run, or an error with its hint. -/
def main (words : List String) : IO UInt32 := do
  match Command.parse words with
  | .ok .help =>
      IO.println Command.helpText
      return 0
  | .ok .version =>
      IO.println Command.versionText
      return 0
  | .ok (.run o) => Introspect.Program.runFiles o
  | .error e =>
      IO.eprintln
        s!"error: {e.message}\n\n{Command.usageText}\n\nFor more information, try '--help'."
      return 2
