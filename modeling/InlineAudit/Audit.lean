import InlineAudit.Detect.Findings
import InlineAudit.Files.System
import InlineAudit.Log.Event
import InlineAudit.Metrics
import InlineAudit.SourceFile

/-!
The audit of a list of files. Each file is read and searched on its own; files that cannot be read
are reported as skipped, and only a cancelled audit fails. The issues keep the order of the files.
-/

namespace InlineAudit

open Files

/-- What became of a file. -/
inductive Outcome where
  | unreadable (cause : PathError)
  | issues (found : List Issue)
  deriving DecidableEq, Repr

/-- Gives the content of the file at a path. -/
abbrev FileReader := (path : String) → Except PathError Text.Bytes

/-- Reads and searches one file below a directory. -/
def examine (read : FileReader) (root : String) (file : SourceFile) : Outcome :=
  match read (Path.joinTo root file.path) with
  | .error cause => .unreadable cause
  | .ok content => .issues (issuesOf file.path file.language (findingsOfBytes content))

def Outcome.isUnreadable : Outcome → Bool
  | unreadable _ => true
  | issues _ => false

def Outcome.found : Outcome → List Issue
  | unreadable _ => []
  | issues found => found

/-- What the log says about a file. -/
def Outcome.events (file : SourceFile) : Outcome → List Log.Event
  | unreadable cause =>
    [{ level := .warn
       message := "Unable to read file, skipping suppression audit"
       fields := [(Log.causeName, .text cause.message), ("file", .text file.path)] }]
  | issues found =>
    if found.isEmpty then []
    else
      [{ level := .debug
         message := "Found suppressions"
         fields := [("file", .text file.path), ("count", .number found.length)] }]

/-- Counts what became of a file. -/
def Metrics.count (metrics : Metrics) (file : SourceFile) : Outcome → Metrics
  | .unreadable _ => metrics.countReadError
  | .issues found => metrics.countFile file.language found

/-- The report on files whose outcomes are known. -/
def Report.ofOutcomes (root : String) (results : List (SourceFile × Outcome)) : Report :=
  let readable := results.filter (!·.2.isUnreadable)
  { root := root
    filesScanned := readable.length
    skipped := (results.filter (·.2.isUnreadable)).map (·.1.path)
    issues := readable.flatMap (·.2.found) }

/-- Why an audit gave no report. -/
inductive AuditError where
  | cancelled
  deriving DecidableEq, Repr

def AuditError.message : AuditError → String
  | .cancelled => "context canceled"

/-- A finished audit: the report, what was logged on the way, and the counters afterwards. -/
structure Audit where
  report : Report
  events : List Log.Event
  metrics : Metrics

/-- The audit of files whose outcomes are known, one after the other. -/
def Audit.ofOutcomes (metrics : Metrics) (root : String) (results : List (SourceFile × Outcome)) :
    Audit :=
  { report := Report.ofOutcomes root results
    events := results.flatMap fun (file, outcome) => outcome.events file
    metrics := results.foldl (fun m (file, outcome) => m.count file outcome) metrics }

/-- Audits files below a directory. An audit that was cancelled beforehand does nothing; it fails
if there was a file to look at. -/
def auditBy (read : FileReader) (cancelled : Bool) (metrics : Metrics) (root : String)
    (files : List SourceFile) : Except AuditError Audit :=
  if cancelled && !files.isEmpty then .error .cancelled
  else .ok (Audit.ofOutcomes metrics root (files.map fun file => (file, examine read root file)))

/-- The same for the files of a system. -/
def audit (system : System) (cancelled : Bool) (metrics : Metrics) (root : String)
    (files : List SourceFile) : Except AuditError Audit :=
  auditBy system.read cancelled metrics root files

/-! ### Audits by several workers -/

/-- How many files may be worked on at once: as many as asked for, or one for each processor. -/
def taskLimit (workers : Int) (processors : Nat) : Nat :=
  if workers ≤ 0 then processors else workers.toNat

/-- What is left when all workers of an audit have ended: a report or an error, and what was logged
and counted by then in either case. -/
structure AuditEnd where
  result : Except AuditError Report
  events : List Log.Event
  metrics : Metrics

/-- How workers share an audit. They are given the number of files that may be worked on at once,
the directory, the files with what becomes of each of them when its turn comes, and the counters.
In which order they do things is up to them, and the caller may cancel the audit meanwhile. -/
abbrev Workers := (limit : Nat) → (root : String) → (results : List (SourceFile × Outcome)) →
  Metrics → AuditEnd

/-- A worker that takes the files one after the other, unless it is cancelled beforehand. -/
def Workers.inOrder (cancelled : Bool) : Workers := fun _ root results metrics =>
  if cancelled && !results.isEmpty then ⟨.error .cancelled, [], metrics⟩
  else
    let done := Audit.ofOutcomes metrics root results
    ⟨.ok done.report, done.events, done.metrics⟩

/-- What audits run on. -/
structure Machine where
  processors : Nat
  workers : Workers
  processors_pos : 0 < processors

/-- One processor, and a worker that nobody cancels. -/
def Machine.single : Machine where
  processors := 1
  workers := .inOrder false
  processors_pos := Nat.one_pos

/-- Audits the files of a system by as many workers as asked for, with counters of its own. -/
def Machine.audit (machine : Machine) (system : System) (workers : Int) (root : String)
    (files : List SourceFile) : AuditEnd :=
  machine.workers (taskLimit workers machine.processors) root
    (files.map fun file => (file, examine system.read root file)) {}

end InlineAudit
