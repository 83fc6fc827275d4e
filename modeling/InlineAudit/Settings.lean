import InlineAudit.Language
import InlineAudit.Log.Level
import InlineAudit.Text.Lines
import InlineAudit.Text.Raw

/-!
The settings of an audit and what makes them valid.
-/

namespace InlineAudit

open Text

structure Settings where
  /-- The languages to audit; none stands for all. -/
  languages : List Raw := []
  /-- Further ignore lines. -/
  exclude : List Raw := []
  /-- How many files are read at once; zero stands for one on each processor. -/
  workers : Int := 0
  format : Raw := "text"
  failOnFindings : Bool := false
  logLevel : Raw := "info"
  logFormat : Raw := "auto"
  deriving DecidableEq, Repr, Inhabited

namespace Settings

/-- The formats of reports. -/
def formats : List String := ["text", "json", "sarif"]

/-- What is wrong with a setting. -/
inductive Fault where
  | language (name : Raw)
  | format (name : Raw)
  | workers (n : Int)
  | log (cause : Log.SettingError)
  deriving DecidableEq, Repr

def Fault.message : Fault → String
  | .language name => "unsupported language " ++ name.quoted
  | .format name =>
    "unknown format " ++ name.quoted ++ " (want one of [" ++ join " " formats ++ "])"
  | .workers n => "workers must not be negative, got " ++ toString n
  | .log cause => cause.message

/-- Several faults, one on each line. -/
def messages (faults : List Fault) : String := join "\n" (faults.map Fault.message)

/-- The error of a result, if it is one. -/
def errorOf {ε α : Type} : Except ε α → List ε
  | .ok _ => []
  | .error e => [e]

/-- Everything that is wrong with settings. -/
def faults (settings : Settings) : List Fault :=
  (settings.languages.filter (!Language.isSupported ·.shown)).map .language
    ++ (if formats.contains settings.format.shown then [] else [.format settings.format])
    ++ (if settings.workers < 0 then [.workers settings.workers] else [])
    ++ (errorOf (Log.Level.read settings.logLevel)).map .log
    ++ (if Log.Format.isAccepted settings.logFormat then []
      else [.log (.format settings.logFormat)])

def valid (settings : Settings) : Bool := settings.faults.isEmpty

end Settings

end InlineAudit
