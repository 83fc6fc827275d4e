import InlineAudit.Command.Program
import InlineAudit.Log.Clock
import Std.Time.DateTime.Timestamp

/-!
The command line. The files that a run may look at are read beforehand: those below the working
directory and those that a word of the command line names. No other program is started, so git
counts as absent; a terminal is only written to, so that nothing can be browsed.
-/

namespace InlineAudit.Main

open Files

/-- Reads a directory entry with all that is below it. A file or a directory that cannot be read
permits nothing, and what cannot even be looked at is left out. The content of directories that no
scan enters is left out as well. -/
partial def readEntry (enter : Bool) (entry : IO.FS.DirEntry) : IO (Option Node) := do
  let name := entry.fileName
  try
    match (← entry.path.symlinkMetadata).type with
    | .file =>
      try
        return some (.file name (← IO.FS.readBinFile entry.path).toList)
      catch _ => return some (.file name [] ⟨false, false⟩)
    | .symlink => return some (.link name (← IO.FS.realPath entry.path).toString)
    | .dir =>
      try
        let entries := (← entry.path.readDir).toList
        if !enter && skippedNames.contains name then return some (.dir name [])
        else return some (.dir name (← entries.filterMapM (readEntry false)))
      catch _ => return some (.dir name [] ⟨false, false⟩)
    | .other => return none
  catch _ => return none

/-- Adds what stands at an absolute path, if anything does. -/
def addPath (nodes : List Node) (path : String) : IO (List Node) := do
  let components := (Path.components path).filter (· ≠ "")
  let parent := "/" ++ Text.join "/" components.dropLast
  let some name := components.getLast? | return nodes
  let some found ← readEntry true ⟨parent, name⟩ | return nodes
  return place (fun _ _ => found) components nodes

/-- The file system that a run sees. -/
def readSystem (words : List String) : IO System := do
  let cwd := (← IO.currentDir).toString
  let outside := (words.map (Path.absolute cwd)).filter fun path => !path.startsWith (cwd ++ "/")
  let nodes ← (outside ++ [cwd]).foldlM addPath []
  return ⟨nodes, cwd⟩

def now : IO Log.Moment := do
  return .ofSeconds (← Std.Time.Timestamp.now).toSecondsSinceUnixEpoch.val.toNat

def environment (words : List String) : IO Command.Environment := do
  return { system := ← readSystem words
           git := fun _ => .error .notFound
           time := some (← now)
           terminal := ← (← IO.getStdout).isTty
           logTerminal := ← (← IO.getStderr).isTty
           colours := (← IO.getEnv "CLICOLOR_FORCE") = some "1" || (← (← IO.getStdout).isTty)
           browse := fun _ => { failure := some "could not open a new TTY" }
           guid := Sarif.guidOf (← IO.rand 0 (1 <<< 124 - 1)) }

end InlineAudit.Main

open InlineAudit in
/-- Runs the program; the status is 1 if the run failed. -/
def main (words : List String) : IO UInt32 := do
  let run := Command.run (← Main.environment words) words
  IO.print run.output
  IO.eprint run.log
  if let some (path, content) := run.metrics then
    IO.FS.writeFile path content
  match run.failure with
  | none => return 0
  | some .findings => return 1
  | some failure =>
    IO.eprintln ("Error: " ++ failure.message)
    return 1
