import InlineAudit.Command.Flag
import InlineAudit.Settings.File

/-!
The options of a scan and how they are laid over the settings of a file: an option that was given
wins, except that excluded patterns add up and that debugging decides the log level.
-/

namespace InlineAudit.Command

structure Options where
  configPath : String := ""
  format : Option String := none
  workers : Option Int := none
  languages : Option (List String) := none
  exclude : Option (List String) := none
  diff : Bool := false
  ref : String := "main"
  debug : Bool := false
  logLevel : Option String := none
  logFormat : Option String := none
  metricsOut : String := ""
  interactive : Bool := false
  failOnFindings : Option Bool := none
  noColour : Bool := false
  help : Bool := false
  version : Bool := false
  deriving DecidableEq, Repr, Inhabited

namespace Options

/-- The flags of a scan. -/
def flags : List (Flag Options) :=
  [.text "config" (some 'c') fun o v => { o with configPath := v },
   .text "format" (some 'f') fun o v => { o with format := some v },
   .integer "workers" (some 'w') fun o n => { o with workers := some n },
   .list "lang" (some 'l') fun o l => { o with languages := some (o.languages.getD [] ++ l) },
   .list "exclude" none fun o l => { o with exclude := some (o.exclude.getD [] ++ l) },
   .bool "diff" none fun o b => { o with diff := b },
   .text "ref" none fun o v => { o with ref := v },
   .bool "debug" none fun o b => { o with debug := b },
   .text "log-level" none fun o v => { o with logLevel := some v },
   .text "log-format" none fun o v => { o with logFormat := some v },
   .text "metrics-out" none fun o v => { o with metricsOut := v },
   .bool "interactive" (some 'i') fun o b => { o with interactive := b },
   .bool "fail-on-findings" none fun o b => { o with failOnFindings := some b },
   .bool "no-color" none fun o b => { o with noColour := b }]

/-- The flags that every program has. -/
def commonFlags : List (Flag Options) :=
  [.bool "help" (some 'h') fun o b => { o with help := b },
   .bool "version" (some 'v') fun o b => { o with version := b }]

/-- The settings of a file with options laid over them. -/
def overlay (options : Options) (settings : Settings) : Settings :=
  { languages := (options.languages.map (·.map .ofString)).getD settings.languages
    exclude := settings.exclude ++ (options.exclude.getD []).map .ofString
    workers := options.workers.getD settings.workers
    format := (options.format.map .ofString).getD settings.format
    failOnFindings := options.failOnFindings.getD settings.failOnFindings
    logLevel :=
      if options.debug then "debug" else (options.logLevel.map .ofString).getD settings.logLevel
    logFormat := (options.logFormat.map .ofString).getD settings.logFormat }

end Options

/-- Why there are no settings. -/
inductive SettingsError where
  | file (cause : Settings.FileError)
  | faults (found : List Settings.Fault)
  deriving DecidableEq, Repr

def SettingsError.message : SettingsError → String
  | .file cause => cause.message
  | .faults found => Settings.messages found

/-- The settings of a file that the options name, or of the directory to scan. -/
def Options.fileSettings (options : Options) (decode : Settings.Decoder) (system : Files.System)
    (root : String) : Except Settings.FileError Settings :=
  if options.configPath = "" then Settings.loadDefault decode system root
  else Settings.load decode system options.configPath

/-- The settings of a scan: those of the file under the options, if both are valid. -/
def Options.resolveBy (options : Options) (decode : Settings.Decoder) (system : Files.System)
    (root : String) : Except SettingsError Settings :=
  match options.fileSettings decode system root with
  | .error cause => .error (.file cause)
  | .ok settings =>
    let settings := options.overlay settings
    if settings.valid then .ok settings else .error (.faults settings.faults)

/-- The same with the settings files of this program. -/
def Options.resolve (options : Options) (system : Files.System) (root : String) :
    Except SettingsError Settings :=
  options.resolveBy Settings.decode system root

end InlineAudit.Command
