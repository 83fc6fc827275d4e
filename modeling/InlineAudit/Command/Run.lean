import InlineAudit.Audit
import InlineAudit.Command.Options
import InlineAudit.Git.Diff

/-!
What a run of the program sees of the world, what it leaves behind, and why it fails.
-/

namespace InlineAudit.Command

open Text

/-- An output that fails at a text: it has taken the first characters of it. -/
structure Refusal where
  taken : Nat := 0
  cause : String
  deriving DecidableEq, Repr

/-- What comes of showing a report on a terminal. -/
structure Browsing where
  /-- What is on the output afterwards. -/
  shown : String := ""
  failure : Option String := none
  deriving DecidableEq, Repr

/-- The texts about the command line itself. -/
structure Manual where
  /-- The help of the command at the end of a path of commands. -/
  help : (path : List String) → String := fun _ => ""
  /-- The script that lets a shell complete command lines, with descriptions or without. -/
  script : (shell : String) → (described : Bool) → String := fun _ _ => ""
  /-- The completions of a command line, and what is logged about them. -/
  candidates : (words : List String) → (described : Bool) → String × String := fun _ _ => ("", "")

/-- The world around a run. -/
structure Environment where
  system : Files.System
  git : Git.Executable
  machine : Machine := .single
  time : Option Log.Moment := none
  /-- Whether the output is a terminal. -/
  terminal : Bool := false
  /-- Whether the log goes to a terminal. -/
  logTerminal : Bool := false
  /-- Whether the output shows colours. -/
  colours : Bool := false
  /-- The identifier of an exported log. -/
  guid : String
  /-- How the output fails at a text, where it does. -/
  refusedOutput : (text : String) → Option Refusal := fun _ => none
  browse : Report → Browsing := fun _ => {}
  /-- Why the counters cannot be written to a file, where they cannot. -/
  refused : (path : String) → Option String := fun _ => none
  manual : Manual := {}

/-- Why a run failed. -/
inductive Failure where
  | flags (cause : FlagError)
  | tooMany (most received : Nat)
  | tooFew (least received : Nat)
  | unknownCommand (word command : String)
  | path (cause : Files.PathError)
  | notDirectory (root : String)
  | settings (cause : SettingsError)
  | logger (cause : Log.SettingError)
  | walk (root : String) (cause : Files.PathError)
  | diff (ref : String) (cause : Git.DiffError)
  | audit (cause : AuditError)
  | noTerminal
  | browser (cause : String)
  | output (cause : String)
  /-- The path of an issue runs through a file. -/
  | noTree
  /-- The report is out, but the counters could not be written. -/
  | counters (cause : String)
  /-- Findings count as a failure, and there are some. -/
  | findings
  deriving DecidableEq, Repr

def Failure.message : Failure → String
  | .flags cause => cause.message
  | .tooMany most received =>
    "accepts at most " ++ toString most ++ " arg(s), received " ++ toString received
  | .tooFew least received =>
    "requires at least " ++ toString least ++ " arg(s), only received " ++ toString received
  | .unknownCommand word command =>
    "unknown command " ++ quote word ++ " for " ++ quote command
  | .path cause => cause.message
  | .notDirectory root => root ++ " is not a directory"
  | .settings cause => cause.message
  | .logger cause => cause.message
  | .walk root cause => "walk " ++ root ++ ": " ++ cause.message
  | .diff ref cause =>
    cause.message ++ " (make sure " ++ quote ref ++ " is a valid branch/ref)"
  | .audit cause => cause.message
  | .noTerminal => "--interactive requires a terminal"
  | .browser cause => cause
  | .output cause => cause
  | .noTree => "a path leads through a file"
  | .counters cause => cause
  | .findings => "inline suppressions found"

/-- What is on the output when something was to be put there, and why not all of it. -/
structure Written where
  output : String := ""
  failure : Option Failure := none
  deriving DecidableEq, Repr

/-- Puts a text on the output. -/
def Environment.write (environment : Environment) (text : String) : Written :=
  match environment.refusedOutput text with
  | none => { output := text }
  | some refusal =>
    { output := String.ofList (text.toList.take refusal.taken)
      failure := some (.output refusal.cause) }

/-- Puts a text on the output and does not ask whether it got there. -/
def Environment.print (environment : Environment) (text : String) : Written :=
  { output := (environment.write text).output }

/-- Shows a report on a terminal. -/
def Environment.present (environment : Environment) (report : Report) : Written :=
  let done := environment.browse report
  { output := done.shown, failure := done.failure.map .browser }

/-- What a run leaves behind. -/
structure Run where
  output : String := ""
  log : String := ""
  /-- The file with the counters, by path and content. -/
  metrics : Option (String × String) := none
  gitCalls : List (List String) := []
  failure : Option Failure := none
  deriving Inhabited

def Run.failed (failure : Failure) : Run := { failure := some failure }

def Run.printed (output : String) : Run := { output := output }

/-- A run that has done nothing but to write something. -/
def Written.run (written : Written) : Run :=
  { output := written.output, failure := written.failure }

end InlineAudit.Command
