import InlineAudit.Proofs.Audit.Pool
import InlineAudit.Proofs.Command.Stages
import InlineAudit.Proofs.Files.System
import InlineAudit.Proofs.Settings.Layer

/-!
How the settings of a scan come about: the options are laid over what the settings file says, and
that over the defaults. Both the file alone and all together have to be valid. Main statement: the
settings are just that, and a scan can be run with them (`settings_layered`). In particular the
names of log levels and log formats that are valid are those that a logger is made from, so no scan
with valid settings is left without a logger.
-/

namespace InlineAudit

open Text Files

/-! ### Names of log levels and formats -/

namespace Log

/-- The formats that settings may name are those that are found by their names. -/
theorem Format.isAccepted_iff (text : Raw) :
    Format.isAccepted text = true ↔ ∃ format, Format.read text = .ok format := by
  have hnames : Format.accepted = Format.names.map Prod.fst := rfl
  have hfound : Format.isAccepted text = true ↔
      (Format.names.lookup (plainName text)).isSome = true := by
    rw [Format.isAccepted, List.contains_iff_mem, hnames, List.lookup_isSome_iff, List.mem_map]
    simp only [beq_iff_eq, eq_comm (a := plainName text)]
  rw [hfound, Format.read]
  cases Format.names.lookup (plainName text) with
  | none => simp
  | some format => simp

/-- A logger takes a level and a format, and nothing else. -/
theorem Logger.ofSettings_eq_ok_iff (level format : Raw) (terminal : Bool)
    (time : Option Moment) :
    (∃ logger, Logger.ofSettings level format terminal time = .ok logger) ↔
      (∃ found, Level.read level = .ok found) ∧ ∃ found, Format.read format = .ok found := by
  rw [Logger.ofSettings]
  cases Level.read level with
  | error cause => simp [bind, Except.bind]
  | ok found =>
    cases Format.read format with
    | error cause => simp [bind, Except.bind]
    | ok found => simp [bind, Except.bind, pure, Except.pure]

end Log

/-! ### Valid settings -/

/-- A text that is shown without U+FFFD has no stray bytes. -/
theorem Text.Raw.eq_ofString {raw : Raw} {text : String} (hshown : raw.shown = text)
    (hfree : replacement ∉ text.toList) : raw = Raw.ofString text := by
  subst hshown
  rw [Raw.shown, String.toList_ofList] at hfree
  have hchar : ∀ symbol ∈ raw.symbols, symbol = .char symbol.toChar := by
    intro symbol hsymbol
    cases symbol with
    | char c => rfl
    | stray b => exact absurd (List.mem_map_of_mem hsymbol) hfree
  rw [Raw.ofString, Raw.shown, String.toList_ofList, List.map_map]
  show Raw.mk raw.symbols = _
  rw [Raw.mk.injEq]
  exact (List.map_id _).symm.trans (List.map_congr_left hchar)

namespace Settings

variable {settings : Settings}

theorem faults_eq_nil (h : settings.valid = true) : settings.faults = [] := List.isEmpty_iff.mp h

theorem mem_errorOf_iff {ε α : Type} {result : Except ε α} {e : ε} :
    e ∈ errorOf result ↔ result = .error e := by
  cases result with
  | ok a => simp [errorOf]
  | error found => simp [errorOf, eq_comm]

/-- The faults about the log are those of its level and of its format. -/
theorem log_mem_faults_iff (settings : Settings) (cause : Log.SettingError) :
    Fault.log cause ∈ settings.faults ↔
      Log.Level.read settings.logLevel = .error cause ∨
        Log.Format.isAccepted settings.logFormat = false ∧
          cause = .format settings.logFormat := by
  rw [← mem_errorOf_iff]
  simp [faults]

/-- A logger can be made just if there is nothing wrong with the log. -/
theorem ofSettings_eq_ok_iff_faults (settings : Settings) (terminal : Bool)
    (time : Option Log.Moment) :
    (∃ logger, Log.Logger.ofSettings settings.logLevel settings.logFormat terminal time
      = .ok logger) ↔ ∀ cause, Fault.log cause ∉ settings.faults := by
  rw [Log.Logger.ofSettings_eq_ok_iff, ← Log.Format.isAccepted_iff]
  simp only [log_mem_faults_iff]
  cases Log.Level.read settings.logLevel with
  | error cause =>
    constructor
    · rintro ⟨⟨_, hfound⟩, -⟩
      cases hfound
    · intro hnone
      exact absurd (.inl rfl) (hnone cause)
  | ok level =>
    cases Log.Format.isAccepted settings.logFormat with
    | false => simp
    | true => simp

/-- Nothing but a missing file stands for the defaults. -/
theorem loadDefault_eq_load {decoder : Decoder} {system : System} {root : String} {bytes : Bytes}
    (hread : system.read (Path.joinTo root defaultFile) = .ok bytes) :
    loadDefault decoder system root = load decoder system (Path.joinTo root defaultFile) := by
  rw [loadDefault, load, hread]
  dsimp only
  cases decoder bytes {} with
  | error cause => rfl
  | ok file =>
    by_cases hvalid : file.valid = true
    · simp only [if_pos hvalid]
    · simp only [if_neg hvalid]

/-- Settings that a scan can be run with. -/
structure Runs (settings : Settings) : Prop where
  /-- The format is one of those that a report can be written in. -/
  format : settings.format = "text" ∨ settings.format = "json" ∨ settings.format = "sarif"
  logger : ∀ terminal time, ∃ logger,
    Log.Logger.ofSettings settings.logLevel settings.logFormat terminal time = .ok logger
  /-- At least one file may be worked on. -/
  limit : ∀ processors, 0 < processors → 0 < taskLimit settings.workers processors

theorem runs_of_valid (h : settings.valid = true) : settings.Runs where
  format := by
    have hcontains : formats.contains settings.format.shown = true := by
      by_contra hnot
      have hfault : Fault.format settings.format ∈ settings.faults := by
        rw [List.contains_iff_mem] at hnot
        simp [faults, hnot]
      rw [faults_eq_nil h] at hfault
      exact List.not_mem_nil hfault
    rw [List.contains_iff_mem] at hcontains
    simp only [formats, List.mem_cons, List.not_mem_nil, or_false] at hcontains
    refine hcontains.imp ?_ (Or.imp ?_ ?_)
    all_goals exact fun hshown => Raw.eq_ofString hshown (by decide)
  logger terminal time := by
    rw [ofSettings_eq_ok_iff_faults, faults_eq_nil h]
    exact fun _ => List.not_mem_nil
  limit _ := taskLimit_pos _

end Settings

/-! ### Options over the file over the defaults -/

namespace Command

namespace Options

variable {options : Options} {decoder : Settings.Decoder} {tells : Bytes → Settings.Layer → Prop}
  {system : System} {root : String} {layer : Settings.Layer}

/-- The settings file of a scan: the one that the options name, or that of the directory. -/
def settingsPath (options : Options) (root : String) : String :=
  if options.configPath = "" then Path.joinTo root Settings.defaultFile else options.configPath

/-- What the settings file of a scan says. That of the directory may be missing. -/
inductive FileGives (options : Options) (tells : Bytes → Settings.Layer → Prop) (system : System)
    (root : String) : Settings.Layer → Prop
  | told {bytes : Bytes} {layer : Settings.Layer}
      (hread : system.read (options.settingsPath root) = .ok bytes)
      (htells : tells bytes layer) : FileGives options tells system root layer
  | missing {cause : PathError} (hdefault : options.configPath = "")
      (hread : system.read (options.settingsPath root) = .error cause)
      (hcause : cause.fault = .noEntry) : FileGives options tells system root {}

theorem FileGives.imp {tells' : Bytes → Settings.Layer → Prop}
    (h : options.FileGives tells system root layer)
    (htells : ∀ bytes layer, tells bytes layer → tells' bytes layer) :
    options.FileGives tells' system root layer := by
  cases h with
  | told hread htold => exact .told hread (htells _ _ htold)
  | missing hdefault hread hcause => exact .missing hdefault hread hcause

theorem FileGives.unique {other : Settings.Layer}
    (h : options.FileGives decoder.Lays system root layer)
    (hother : options.FileGives decoder.Lays system root other) : other = layer := by
  cases h with
  | told hread hlays =>
    cases hother with
    | told hread' hlays' =>
      obtain rfl := Except.ok.inj (hread.symm.trans hread')
      exact hlays.unique hlays'
    | missing _ hread' => cases hread.symm.trans hread'
  | missing _ hread =>
    cases hother with
    | told hread' => cases hread.symm.trans hread'
    | missing => rfl

/-- What the file says by itself has to be valid. -/
theorem FileGives.fileSettings_eq_ok_iff (h : options.FileGives decoder.Lays system root layer)
    (settings : Settings) :
    options.fileSettings decoder system root = .ok settings ↔
      settings = layer.onto {} ∧ (layer.onto {}).valid = true := by
  cases h with
  | @told bytes layer hread hlays =>
    have hfile : options.fileSettings decoder system root
        = Settings.load decoder system (options.settingsPath root) := by
      rw [fileSettings]
      rw [settingsPath] at hread ⊢
      split
      · next hdefault =>
        rw [if_pos hdefault] at hread
        exact Settings.loadDefault_eq_load hread
      · rfl
    rw [hfile, Settings.load, hread]
    simp only [hlays {}]
    split
    · next hvalid => simp [hvalid, eq_comm]
    · next hinvalid => simp [hinvalid]
  | missing hdefault hread hcause =>
    have hdefaults : (({} : Settings.Layer).onto {}).valid = true := by decide +kernel
    rw [settingsPath, if_pos hdefault] at hread
    rw [fileSettings, if_pos hdefault, Settings.loadDefault, Settings.load, hread]
    dsimp only
    rw [if_pos hcause, and_iff_left hdefaults, Except.ok.injEq, Settings.Layer.onto_empty]
    exact eq_comm

/-- The settings that options and a layer over the defaults come to, each by itself. -/
structure Layered (options : Options) (layer : Settings.Layer) (settings : Settings) : Prop where
  languages : settings.languages
    = ((options.languages.map (·.map Raw.ofString)).or layer.languages).getD []
  exclude : settings.exclude
    = layer.exclude.getD [] ++ (options.exclude.getD []).map Raw.ofString
  workers : settings.workers = (options.workers.or layer.workers).getD 0
  format : settings.format = ((options.format.map Raw.ofString).or layer.format).getD "text"
  failOnFindings : settings.failOnFindings
    = (options.failOnFindings.or layer.failOnFindings).getD false
  logLevel : settings.logLevel = if options.debug then Raw.ofString "debug"
    else ((options.logLevel.map Raw.ofString).or layer.logLevel).getD "info"
  logFormat : settings.logFormat
    = ((options.logFormat.map Raw.ofString).or layer.logFormat).getD "auto"

theorem layered_overlay (options : Options) (layer : Settings.Layer) :
    Layered options layer (options.overlay (layer.onto {})) where
  languages := Option.getD_or.symm
  exclude := rfl
  workers := Option.getD_or.symm
  format := Option.getD_or.symm
  failOnFindings := Option.getD_or.symm
  logLevel := by
    rw [Option.getD_or]
    rfl
  logFormat := Option.getD_or.symm

theorem FileGives.resolveBy_eq_ok_iff (h : options.FileGives decoder.Lays system root layer)
    (settings : Settings) :
    options.resolveBy decoder system root = .ok settings ↔
      settings = options.overlay (layer.onto {}) ∧ (layer.onto {}).valid = true ∧
        (options.overlay (layer.onto {})).valid = true := by
  have hfile := h.fileSettings_eq_ok_iff
  rw [resolveBy]
  cases hsettings : options.fileSettings decoder system root with
  | error cause =>
    have hinvalid : ¬(layer.onto {}).valid = true := fun hvalid => by
      cases hsettings.symm.trans ((hfile _).mpr ⟨rfl, hvalid⟩)
    simp [hinvalid]
  | ok file =>
    obtain ⟨rfl, hvalid⟩ := (hfile file).mp hsettings
    dsimp only
    split
    · next hmerged => simp [hvalid, hmerged, eq_comm]
    · next hmerged => simp [hmerged]

theorem runs_of_resolveBy {settings : Settings}
    (h : options.resolveBy decoder system root = .ok settings) : settings.Runs := by
  rw [resolveBy] at h
  split at h
  · cases h
  · dsimp only at h
    split at h
    · next hvalid => exact Except.ok.inj h ▸ Settings.runs_of_valid hvalid
    · cases h

/-- The settings that are resolved are laid one over the other: each is that of the options if they
give it, or else that of the file if it says so, or else the default. -/
structure LayersOver (options : Options) (decoder : Settings.Decoder)
    (tells : Bytes → Settings.Layer → Prop) (system : System) (root : String)
    (resolved : Except SettingsError Settings) : Prop where
  /-- A file that can be read says one thing. -/
  told : ∀ bytes file, system.read (options.settingsPath root) = .ok bytes →
    decoder bytes {} = .ok file → ∃! layer, options.FileGives tells system root layer
  /-- There are settings just if the file by itself and all together are valid. -/
  layered : ∀ layer, options.FileGives tells system root layer →
    ∃ merged, options.Layered layer merged ∧
      ∀ settings, resolved = .ok settings ↔
        settings = merged ∧ (layer.onto {}).valid = true ∧ merged.valid = true
  runs : ∀ settings, resolved = .ok settings → settings.Runs

theorem layersOver (hlays : ∀ bytes layer, tells bytes layer → decoder.Lays bytes layer)
    (htold : ∀ bytes file, decoder bytes {} = .ok file → ∃ layer, tells bytes layer)
    (options : Options) (system : System) (root : String) :
    options.LayersOver decoder tells system root (options.resolveBy decoder system root) where
  told bytes file hread hfile := by
    obtain ⟨layer, htells⟩ := htold bytes file hfile
    have hgives : options.FileGives tells system root layer := .told hread htells
    exact ⟨layer, hgives, fun other hother => (hgives.imp hlays).unique (hother.imp hlays)⟩
  layered layer hlayer :=
    ⟨_, layered_overlay options layer, (hlayer.imp hlays).resolveBy_eq_ok_iff⟩
  runs _ := runs_of_resolveBy

end Options

/-- No scan fails for want of a logger: what is wrong with the log is told with the settings. -/
theorem plan_ne_logger (environment : Environment) (root : String) (options : Options)
    (cause : Log.SettingError) : plan environment root options ≠ .error (.logger cause) := by
  intro hplan
  rw [plan_eq] at hplan
  cases hpath : directory environment.system root with
  | error failure =>
    rw [hpath] at hplan
    obtain rfl := Except.error.inj hplan
    rw [directory] at hpath
    split at hpath
    · cases hpath
    · split at hpath <;> cases hpath
  | ok path =>
    rw [hpath] at hplan
    dsimp only at hplan
    cases hresolve : options.resolve environment.system path with
    | error failure =>
      rw [hresolve] at hplan
      cases hplan
    | ok settings =>
      obtain ⟨logger, hlogger⟩ :=
        (Options.runs_of_resolveBy hresolve).logger environment.logTerminal environment.time
      rw [hresolve] at hplan
      simp only [hlogger] at hplan
      cases hplan

/-- The settings of a scan are laid one over the other: each is that of the options if they give it,
or else that of the file if it says so, or else the default. Excluded patterns of both add up, and
debugging decides the log level. There are such settings just if the file by itself and all together
are valid, and then a scan can be run with them. This goes for every decoder that leaves alone what
a file does not mention, and so for that of this program, which tells of a file what stands in it.
What may be said about the log is what a logger is made from. -/
theorem settings_layered (options : Options) (system : System) (root : String) :
    (∀ decoder : Settings.Decoder, decoder.LeavesAbsent →
      options.LayersOver decoder decoder.Lays system root
        (options.resolveBy decoder system root)) ∧
    options.LayersOver Settings.decode Settings.Tells system root (options.resolve system root) ∧
    ∀ (settings : Settings) terminal time,
      (∃ logger, Log.Logger.ofSettings settings.logLevel settings.logFormat terminal time
        = .ok logger) ↔ ∀ cause, Settings.Fault.log cause ∉ settings.faults := by
  refine ⟨fun decoder hdecoder => ?_, ?_, Settings.ofSettings_eq_ok_iff_faults⟩
  · exact Options.layersOver (fun _ _ h => h) hdecoder options system root
  · exact Options.layersOver (fun _ _ h => h.lays) (fun _ _ => Settings.exists_tells)
      options system root

/-- A settings file with something to say about some of the settings. -/
def settledFile : Bytes := encodeString "workers: 3\nexclude: [gen]\nlog:\n  level: warn\n"

def settledProject : System where
  top := [.dir "project" [.file Settings.defaultFile settledFile]]
  cwd := "/"

/-- Options that say something of their own, two of them about the log level. -/
def debugging : Options where
  format := some "json"
  exclude := some ["tmp"]
  debug := true
  logLevel := some "error"

theorem settledProject_read :
    settledProject.read (debugging.settingsPath "/project") = .ok settledFile := by
  have hname : ∀ name ∈ ["project"], Path.IsName name := List.forall_mem_singleton.mpr (by decide)
  have hjoined : debugging.settingsPath "/project"
      = Path.joinTo (Path.rooted ["project"]) Settings.defaultFile := by decide +kernel
  have hfound : settledProject.find true (Path.rooted ["project"])
      = .ok (.dir "project" [.file Settings.defaultFile settledFile]) :=
    System.find_top (by decide) rfl (by simp)
  rw [hjoined]
  exact System.read_joinTo hname (by decide) hfound rfl rfl rfl

/-- The file, under the options and over the defaults. -/
theorem settledProject_layered :
    Settings.decode.LeavesAbsent ∧
    ∃ layer settings, debugging.FileGives Settings.Tells settledProject "/project" layer ∧
      debugging.resolve settledProject "/project" = .ok settings ∧
      debugging.Layered layer settings ∧ settings.Runs ∧
      settings =
        { exclude := ["gen", "tmp"], workers := 3, format := "json", logLevel := "debug" } := by
  have hdecoder : Settings.decode.LeavesAbsent := fun bytes file hfile =>
    (Settings.exists_tells hfile).imp fun _ htells => htells.lays
  have hfile : Settings.decode settledFile {}
      = .ok { exclude := ["gen"], workers := 3, logLevel := "warn" } := by decide +kernel
  have hresolve : debugging.resolve settledProject "/project" = .ok
      { exclude := ["gen", "tmp"], workers := 3, format := "json", logLevel := "debug" } := by
    have hread := settledProject_read
    have hdefault : debugging.configPath = "" := rfl
    rw [Options.settingsPath, if_pos hdefault] at hread
    rw [Options.resolve, Options.resolveBy, Options.fileSettings, if_pos hdefault,
      Settings.loadDefault_eq_load hread, Settings.load, hread]
    simp only [hfile]
    decide +kernel
  obtain ⟨hany, hprogram, -⟩ := settings_layered debugging settledProject "/project"
  obtain ⟨layer, hlayer, -⟩ := hprogram.told _ _ settledProject_read hfile
  obtain ⟨merged, hmerged, hresolved⟩ := hprogram.layered layer hlayer
  obtain ⟨rfl, -⟩ := (hresolved _).mp hresolve
  exact ⟨hdecoder, layer, _, hlayer, hresolve, hmerged, (hany _ hdecoder).runs _ hresolve, rfl⟩

end Command

end InlineAudit
