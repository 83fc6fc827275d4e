import InlineAudit.Files.System
import InlineAudit.Settings
import InlineAudit.Yaml.Fields

/-!
Settings files. Fields that a file does not set keep their defaults; a missing default file stands
for the defaults.
-/

namespace InlineAudit.Settings

open Files (System PathError)
open Yaml

/-- The settings file of a directory. -/
def defaultFile : String := ".suppressaudit.yaml"

/-- Why a settings file was refused. -/
inductive FileError where
  | read (path : String) (cause : PathError)
  | parse (path : String) (cause : ReadError)
  | invalid (path : String) (faults : List Fault)
  deriving DecidableEq, Repr

def FileError.message : FileError → String
  | .read path cause => "read config " ++ path ++ ": " ++ cause.message
  | .parse path cause => "parse config " ++ path ++ ": " ++ cause.message
  | .invalid path faults => "invalid config " ++ path ++ ": " ++ messages faults

/-- A field that is set when there is a value. -/
def setField {α : Type} (name : String) (read : Document → Node → Reader (Option α))
    (set : Settings → α → Settings) : NamedField Settings :=
  { name := name
    read := fun document node settings => do
      match ← read document node with
      | some a => return set settings a
      | none => return settings }

def logFields : List (NamedField Settings) :=
  [setField "level" readText fun settings text => { settings with logLevel := text },
   setField "format" readText fun settings text => { settings with logFormat := text }]

def fields : List (NamedField Settings) :=
  [{ name := "languages"
     read := fun document node settings => do
       return { settings with languages := ← readTexts document node settings.languages } },
   { name := "exclude"
     read := fun document node settings => do
       return { settings with exclude := ← readTexts document node settings.exclude } },
   setField "workers" readInt fun settings n => { settings with workers := n },
   setField "format" readText fun settings text => { settings with format := text },
   setField "fail_on_findings" readBool fun settings b => { settings with failOnFindings := b },
   { name := "log"
     read := readStructure "config.LogConfig" logFields }]

/-- A way to read what a text says about settings over some settings. -/
abbrev Decoder := Text.Bytes → Settings → Except ReadError Settings

def decode : Decoder := fun bytes settings => Yaml.read "config.Config" fields settings bytes

/-- The valid settings of a file, which are read over the defaults. -/
def load (decode : Decoder) (system : System) (path : String) : Except FileError Settings :=
  match system.read path with
  | .error cause => .error (.read path cause)
  | .ok bytes =>
    match decode bytes {} with
    | .error cause => .error (.parse path cause)
    | .ok settings =>
      if settings.valid then .ok settings else .error (.invalid path settings.faults)

/-- The settings of a directory: those of its settings file, or the defaults without one. -/
def loadDefault (decode : Decoder) (system : System) (root : String) :
    Except FileError Settings :=
  match load decode system (Path.joinTo root defaultFile) with
  | .error (.read path cause) =>
    if cause.fault = .noEntry then .ok {} else .error (.read path cause)
  | result => result

end InlineAudit.Settings
