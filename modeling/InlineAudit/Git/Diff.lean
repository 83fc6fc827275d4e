import InlineAudit.Git.Numstat
import InlineAudit.SourceFile
import InlineAudit.Text.Raw

/-!
What changed against a git reference. The changed files are those that git counts changes for and
those that it does not track yet; of several counts for one path the last one holds. Paths are kept
as git prints them, stray bytes included.
-/

namespace InlineAudit.Git

open Text

/-- Why a git call gave no output. -/
inductive CallError where
  | notFound
  | exit (status : Int)
  /-- The caller has cancelled what the call is for. -/
  | cancelled
  | failed (cause : String)
  deriving DecidableEq, Repr

def CallError.message : CallError → String
  | .notFound => "exec: \"git\": executable file not found in $PATH"
  | .exit status => "exit status " ++ toString status
  | .cancelled => "context canceled"
  | .failed cause => cause

/-- A git executable: what it prints when called with a list of arguments. -/
abbrev Executable := List String → Except CallError Bytes

inductive DiffError where
  | diff (ref : String) (cause : CallError)
  | untracked (cause : CallError)
  deriving DecidableEq, Repr

def DiffError.message : DiffError → String
  | .diff ref cause => "git diff " ++ ref ++ ": " ++ cause.message
  | .untracked cause => "git ls-files: " ++ cause.message

structure Diff where
  /-- All changed paths, each once. -/
  changed : List Raw := []
  /-- The paths that git does not track. -/
  untracked : List Raw := []
  counts : List (Raw × ChangeCount) := []
  deriving DecidableEq, Repr, Inhabited

/-- Adds a pair; a pair with the same key is replaced. -/
def insertLast {β : Type} (key : Raw) (value : β) (pairs : List (Raw × β)) : List (Raw × β) :=
  pairs.filter (·.1 ≠ key) ++ [(key, value)]

/-- The lines of an output, after white space at both of its ends is dropped. -/
def outputLines (output : Bytes) : List (List Symbol) :=
  splitAt (.char '\n') (trimBy isBlankSymbol (symbols output))

/-- The counts that an output of counting lines gives. -/
def readCounts (output : Bytes) : List (Raw × ChangeCount) :=
  (outputLines output).foldl (fun counts line =>
    match numstat? line with
    | some (path, count) => insertLast ⟨path⟩ count counts
    | none => counts) []

/-- The paths that an output lists, one on each line. -/
def readPaths (output : Bytes) : List Raw :=
  (((outputLines output).filter (!·.isEmpty)).map Raw.mk).eraseDups

def Diff.ofOutputs (counting listing : Bytes) : Diff :=
  let counts := readCounts counting
  let untracked := readPaths listing
  { changed := (counts.map (·.1) ++ untracked).eraseDups
    untracked := untracked
    counts := counts }

def diffArguments (ref : String) : List String := ["diff", "--numstat", "--relative", ref]

def untrackedArguments : List String := ["ls-files", "--others", "--exclude-standard"]

/-- The difference to a reference, together with the calls that were made, in order. The second
call is not made when the first one fails. -/
def diffAgainst (git : Executable) (ref : String) :
    Except DiffError Diff × List (List String) :=
  match git (diffArguments ref) with
  | .error cause => (.error (.diff ref cause), [diffArguments ref])
  | .ok counting =>
    match git untrackedArguments with
    | .error cause => (.error (.untracked cause), [diffArguments ref, untrackedArguments])
    | .ok listing => (.ok (.ofOutputs counting listing), [diffArguments ref, untrackedArguments])

/-- A file with what a difference says about it. -/
def Diff.annotate (diff : Diff) (file : SourceFile) : SourceFile :=
  let path := Raw.ofString file.path
  let file := { file with isNew := diff.untracked.contains path }
  match diff.counts.lookup path with
  | some count => { file with added := count.added, removed := count.removed }
  | none => file

/-- The changed ones among the files, annotated. -/
def Diff.keepChanged (diff : Diff) (files : List SourceFile) : List SourceFile :=
  (files.filter fun file => diff.changed.contains (.ofString file.path)).map diff.annotate

end InlineAudit.Git
