import InlineAudit.Text.Blank
import InlineAudit.Text.Lower
import InlineAudit.Text.Raw

/-!
Log levels and log formats, and how settings name them: whatever the case and the white space
around the name.
-/

namespace InlineAudit.Log

open Text

inductive Level where
  | trace
  | debug
  | info
  | warn
  | error
  /-- Lets nothing through. -/
  | disabled
  deriving DecidableEq, Repr, Inhabited

namespace Level

def number : Level → Int
  | trace => -1
  | debug => 0
  | info => 1
  | warn => 2
  | error => 3
  | disabled => 7

def name : Level → String
  | trace => "trace"
  | debug => "debug"
  | info => "info"
  | warn => "warn"
  | error => "error"
  | disabled => "disabled"

/-- The names of the levels in settings. -/
def names : List (String × Level) :=
  [("", info), ("info", info), ("debug", debug), ("trace", trace), ("warn", warn),
   ("warning", warn), ("error", error), ("disabled", disabled), ("off", disabled)]

end Level

inductive Format where
  /-- The console format on a terminal, JSON elsewhere. -/
  | auto
  | json
  | console
  deriving DecidableEq, Repr, Inhabited

/-- The names of the formats in settings. -/
def Format.names : List (String × Format) :=
  [("", .auto), ("auto", .auto), ("json", .json), ("console", .console)]

/-- The names that settings may give a format. -/
def Format.accepted : List String := ["", "auto", "json", "console"]

/-- A name as it is looked up. -/
def plainName (text : Raw) : String := lowerString (trimString text.shown)

/-- Whether settings may name a format so. -/
def Format.isAccepted (text : Raw) : Bool := accepted.contains (plainName text)

/-- A setting that names no level or no format. -/
inductive SettingError where
  | level (text : Raw)
  | format (text : Raw)
  deriving DecidableEq, Repr

def SettingError.message : SettingError → String
  | .level text => "invalid log level " ++ text.quoted
  | .format text => "invalid log format " ++ text.quoted

def Level.read (text : Raw) : Except SettingError Level :=
  match Level.names.lookup (plainName text) with
  | some level => .ok level
  | none => .error (.level text)

def Format.read (text : Raw) : Except SettingError Format :=
  match Format.names.lookup (plainName text) with
  | some format => .ok format
  | none => .error (.format text)

end InlineAudit.Log
