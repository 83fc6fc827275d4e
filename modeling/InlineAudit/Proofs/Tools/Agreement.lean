import InlineAudit.Proofs.Audit.Turns
import InlineAudit.Proofs.Command.ScanLine
import InlineAudit.Proofs.Command.Stages
import InlineAudit.Proofs.Files.System
import InlineAudit.Proofs.Text.Spacing
import InlineAudit.Proofs.Walk
import InlineAudit.Tools.Reply

/-!
Two ways to ask for the same scan. A tool is called with a directory, languages and a reference; the
same can be written on a command line. In a directory without settings of its own, such a line is
run with the default settings for everything else. From there on the program and the tool go ways of
their own, each with its workers; but both choose the same files, both audits are cancelled or come
to the same report, and both write it alike. So what they say is the same, but for a line break that
ends a document, and where one of them fails on the way so does the other.
-/

namespace InlineAudit

open Command Files Text Tools

/-! ### The settings of such a scan -/

/-- A path to a directory in which no settings file is found, seen from a working directory. -/
structure HasNoSettings (system : System) (path : String) : Prop where
  ne_empty : path ≠ ""
  dir : ∃ node, system.stat (Path.absolute system.cwd path) = .ok node ∧ node.isDir = true
  missing : ∃ cause, system.read (Path.joinTo (Path.absolute system.cwd path)
    Settings.defaultFile) = .error cause ∧ cause.fault = .noEntry

theorem Text.Raw.map_shown_ofString (texts : List String) :
    (texts.map Raw.ofString).map (·.shown) = texts := by
  simp [Function.comp_def, Raw.shown_ofString]

/-- Supported languages spoil no settings. -/
theorem Settings.valid_languages {settings : Settings} (h : settings.valid = true)
    {languages : List String} (hlanguages : ∀ l ∈ languages, Language.isSupported l = true) :
    { settings with languages := languages.map Raw.ofString }.valid = true := by
  have hnone : (languages.map Raw.ofString).filter (!Language.isSupported ·.shown) = [] := by
    simpa [List.filter_map, Raw.shown_ofString] using hlanguages
  rw [valid, faults, List.isEmpty_iff] at h ⊢
  simp only [List.append_eq_nil_iff] at h ⊢
  obtain ⟨⟨⟨⟨-, hformat⟩, hworkers⟩, hlevel⟩, hlog⟩ := h
  refine ⟨⟨⟨⟨?_, hformat⟩, hworkers⟩, hlevel⟩, hlog⟩
  rw [hnone]
  rfl

theorem overlay_scanOptions (form : ReportForm) (languages : List String) (ref : String) :
    (scanOptions form languages ref).overlay {} = scanSettings form languages := by
  cases form <;> cases languages <;> rfl

/-- In a directory that can be searched and has no such entry, none is found. -/
theorem hasNoSettings_of_entries {system : System} {path name : String} {entries : List Node}
    {access : Access} (hcwd : Path.isAbsolute system.cwd = true) (hpath : path ≠ "")
    (hdir : system.find true (Path.absolute system.cwd path) = .ok (.dir name entries access))
    (hsearch : access.search = true)
    (hmissing : lookupEntry Settings.defaultFile entries = none) : HasNoSettings system path where
  ne_empty := hpath
  dir := by
    rw [System.stat, hdir]
    exact ⟨_, rfl, rfl⟩
  missing := by
    obtain ⟨names, hnames, hrooted⟩ := Path.exists_absolute_eq hcwd path
    rw [hrooted] at hdir ⊢
    have hgone := System.find_joinTo_missing hnames (by decide) hdir hsearch hmissing
    rw [System.read, hgone]
    exact ⟨_, rfl, rfl⟩

/-- A directory without a settings file has the default settings. -/
theorem HasNoSettings.loadDefault_eq {system : System} {path : String}
    (h : HasNoSettings system path) (decoder : Settings.Decoder) :
    Settings.loadDefault decoder system (Path.absolute system.cwd path) = .ok {} := by
  obtain ⟨cause, hread, hcause⟩ := h.missing
  rw [Settings.loadDefault, Settings.load, hread]
  exact if_pos hcause

theorem HasNoSettings.resolve_eq {system : System} {path : String} (h : HasNoSettings system path)
    (form : ReportForm) {languages : List String}
    (hlanguages : ∀ l ∈ languages, Language.isSupported l = true) (ref : String) :
    (scanOptions form languages ref).resolve system (Path.absolute system.cwd path) =
      .ok (scanSettings form languages) := by
  have hconfig : (scanOptions form languages ref).configPath = "" := by cases form <;> rfl
  have hvalid : (scanSettings form languages).valid = true := by
    refine Settings.valid_languages ?_ hlanguages
    cases form <;> decide +kernel
  rw [Options.resolve, Options.resolveBy, Options.fileSettings, if_pos hconfig, h.loadDefault_eq]
  simp only [overlay_scanOptions, hvalid, if_true]

/-- What is settled before the scan. -/
def scanPlan (environment : Command.Environment) (form : ReportForm) (languages : List String)
    (path : String) : Command.Plan where
  path := Path.absolute environment.system.cwd path
  settings := scanSettings form languages
  logger :=
    { level := .info
      style := Log.Format.auto.style environment.logTerminal
      time := environment.time }

theorem HasNoSettings.plan_eq {environment : Command.Environment} {path : String}
    (h : HasNoSettings environment.system path) (form : ReportForm) {languages : List String}
    (hlanguages : ∀ l ∈ languages, Language.isSupported l = true) (ref : String) :
    Command.plan environment path (scanOptions form languages ref) =
      .ok (scanPlan environment form languages path) := by
  have hdirectory : directory environment.system path =
      .ok (Path.absolute environment.system.cwd path) := by
    obtain ⟨node, hstat, hdir⟩ := h.dir
    rw [directory, hstat]
    exact if_pos hdir
  have hlogger : Log.Logger.ofSettings (scanSettings form languages).logLevel
      (scanSettings form languages).logFormat environment.logTerminal environment.time =
        .ok (scanPlan environment form languages path).logger := by
    have hlevel : Log.Level.read "info" = .ok .info := by decide +kernel
    have hstyle : Log.Format.read "auto" = .ok .auto := by decide +kernel
    have hdefaults : (scanSettings form languages).logLevel = "info" ∧
        (scanSettings form languages).logFormat = "auto" := by
      cases form <;> exact ⟨rfl, rfl⟩
    rw [hdefaults.1, hdefaults.2, Log.Logger.ofSettings, hlevel, hstyle]
    rfl
  simp only [Command.plan_eq, hdirectory, h.resolve_eq form hlanguages ref, hlogger]
  rfl

/-! ### Both ways -/

/-- A tool and the program that see the same. Each has workers of its own, which take turns; it is
for the same files that those of both are cancelled in time. -/
structure SeeAlike (late : List SourceFile → Prop) (tools : Tools.Environment)
    (environment : Command.Environment) : Prop where
  system_eq : tools.system = environment.system
  git_eq : tools.git = environment.git
  tools_turns : tools.machine.workers.TakeTurns late
  turns : environment.machine.workers.TakeTurns late

/-- A failure on the walk, of git or of the audit, as a tool tells it and as the program does. -/
inductive SameFailure (path : String) : ToolError → Failure → Prop
  | walk (cause : PathError) : SameFailure path (.walk cause) (.walk path cause)
  | diff (ref : String) (cause : Git.DiffError) :
    SameFailure path (.diff ref cause) (.diff ref cause)
  | audit (cause : AuditError) : SameFailure path (.audit cause) (.audit cause)

/-- What a tool replies and what a run of the program on a directory leaves behind: one of them
fails on the walk, the git calls or the audit just if the other does, and for the same cause. -/
structure FailAlike (path : String) (reply : Reply) (run : Command.Run) : Prop where
  fails_iff : ∀ cause failure, SameFailure path cause failure →
    (reply.result = .error cause ↔ run.failure = some failure)
  gitCalls_eq : reply.gitCalls = run.gitCalls

/-- Beyond that they say the same but for an ending, and one succeeds if the other does. -/
structure Agree (path ending : String) (reply : Reply) (run : Command.Run) : Prop
    extends FailAlike path reply run where
  output_eq : ∀ text, reply.result = .ok text → run.output = text ++ ending
  succeeds_iff : (∃ text, reply.result = .ok text) ↔ run.failure = none

/-- A tool that was asked for a format, and the program that was asked for a form. Whatever these
are and whatever becomes of the output, they fail alike. Where both are the same and the output
takes everything, they agree. -/
structure Correspond (environment : Command.Environment) (path : String) (form : ReportForm)
    (format : String) (reply : Reply) (run : Command.Run) : Prop where
  failAlike : FailAlike path reply run
  agree : (∀ text, environment.refusedOutput text = none) → format ∈ form.formats →
    Agree path form.ending reply run

section

variable {path : String}

theorem SameFailure.eq_iff {cause cause' : ToolError} {failure failure' : Failure}
    (h : SameFailure path cause failure) (h' : SameFailure path cause' failure') :
    cause = cause' ↔ failure = failure' := by
  cases h <;> cases h' <;> simp

theorem SameFailure.stage {cause : ToolError} {failure : Failure}
    (h : SameFailure path cause failure) :
    failure.stage = .selection ∨ failure.stage = .audit := by
  cases h with
  | walk => exact .inl rfl
  | diff => exact .inl rfl
  | audit => exact .inr rfl

/-- To write a report is no matter of the scan. -/
theorem SameFailure.render_ne {cause : ToolError} {failure : Failure}
    (h : SameFailure path cause failure) (format : String) (report : Report) :
    Tools.render format report ≠ .error cause := by
  rw [Tools.render]
  split
  · simp
  · split
    · split
      · simp
      · cases h <;> simp
    · cases h <;> simp

/-- Both fail on the way. -/
theorem SameFailure.correspond {cause : ToolError} {failure : Failure}
    (h : SameFailure path cause failure) {environment : Command.Environment} {form : ReportForm}
    {format : String} {reply : Reply} {run : Command.Run} (hreply : reply.result = .error cause)
    (hrun : run.failure = some failure) (hcalls : reply.gitCalls = run.gitCalls) :
    Correspond environment path form format reply run := by
  have hfail : FailAlike path reply run :=
    { fails_iff := fun cause' failure' h' => by
        rw [hreply, hrun, Except.error.injEq, Option.some.injEq]
        exact h.eq_iff h'
      gitCalls_eq := hcalls }
  refine ⟨hfail, fun _ _ => ⟨hfail, fun text htext => ?_, by simp [hreply, hrun]⟩⟩
  rw [hreply] at htext
  cases htext

end

/-! ### The report -/

section

variable {environment : Command.Environment} {form : ReportForm} {format : String}

/-- Both write a report alike, or neither can. -/
theorem render_scanOptions (houtput : ∀ text, environment.refusedOutput text = none)
    (hformat : format ∈ form.formats) (languages : List String) (ref : String) (report : Report) :
    Command.render environment (scanOptions form languages ref)
        (scanSettings form languages).format.shown report =
      match Tools.render format report with
      | .ok text => { output := text ++ form.ending }
      | .error _ => { failure := some .noTree } := by
  have hwrite (text : String) : environment.write text = { output := text } := by
    rw [Command.Environment.write, houtput]
  cases form with
  | document =>
    obtain rfl : format = "json" := List.mem_singleton.mp hformat
    have hshown : (scanSettings .document languages).format.shown = "json" :=
      Raw.shown_ofString "json"
    rw [hshown, Tools.render]
    exact hwrite report.json
  | text =>
    have hshown : (scanSettings .text languages).format.shown = "text" := Raw.shown_ofString "text"
    have hbare : finishOf (scanOptions .text languages ref).noColour environment.colours = .bare :=
      rfl
    have hinteractive : (scanOptions .text languages ref).interactive = false := rfl
    have htext : ¬format = "json" ∧ (format = "" || format = "text") = true := by
      rcases List.mem_cons.mp hformat with rfl | hformat
      · decide
      · obtain rfl := List.mem_singleton.mp hformat
        decide
    rw [Command.render, hshown, hbare, hinteractive, Tools.render, if_neg htext.1, if_pos htext.2]
    cases report.text? .bare with
    | none => rfl
    | some text =>
      simp only [Command.Environment.print, hwrite]
      exact congrArg (fun output => ({ output := output } : Written)) String.append_empty.symm

variable (languages : List String) (ref path : String) (events : List Log.Event) (report : Report)
  (metrics : Metrics)

/-- A finished scan is written out, or there is no way to show it. -/
theorem report_scanOptions (houtput : ∀ text, environment.refusedOutput text = none)
    (hformat : format ∈ form.formats) :
    let run := Command.report environment (scanOptions form languages ref)
      (scanPlan environment form languages path) events report metrics
    (∀ text, Tools.render format report = .ok text →
      run.output = text ++ form.ending ∧ run.failure = none) ∧
    ∀ cause, Tools.render format report = .error cause → run.failure = some .noTree := by
  have hrender := render_scanOptions houtput hformat languages ref report
  have hlenient : (scanSettings form languages).failOnFindings = false := by cases form <;> rfl
  have hcounters : Command.counters environment (scanOptions form languages ref) metrics =
      .ok none := by cases form <;> rfl
  constructor
  · intro text htext
    rw [htext] at hrender
    simp [Command.report, scanPlan, hrender, hlenient, hcounters]
  · intro cause hcause
    rw [hcause] at hrender
    simp [Command.report, scanPlan, hrender]

end

/-! ### The audits -/

section

variable {late : List SourceFile → Prop} {tools : Tools.Environment}
  {environment : Command.Environment} {languages : List String} {ref path : String}

/-- The files are chosen. Both audits of them are cancelled, or both come to the same report. -/
theorem SeeAlike.audits (h : SeeAlike late tools environment) (workers : Int) (root : String)
    (files : List SourceFile) :
    ∃ result, (tools.machine.audit tools.system 0 root files).result = result ∧
      (environment.machine.audit environment.system workers root files).result = result := by
  obtain ⟨hlate, hfinishes⟩ := Machine.audit_ends h.tools_turns environment.system 0 root files
  obtain ⟨hlate', hfinishes'⟩ :=
    Machine.audit_ends h.turns environment.system workers root files
  rw [h.system_eq]
  by_cases hfiles : late files
  · exact ⟨_, hlate hfiles, hlate' hfiles⟩
  · exact ⟨_, (hfinishes hfiles).result_eq, (hfinishes' hfiles).result_eq⟩

/-- With a finished audit, both tell its report. -/
theorem correspond_of_finished (environment : Command.Environment) (form : ReportForm)
    (format : String) (languages : List String) (ref path : String) (report : Report)
    (events toolEvents : List Log.Event) (metrics : Metrics) (calls : List (List String)) :
    Correspond environment path form format
      { result := Tools.render format report, events := toolEvents, gitCalls := calls }
      { Command.report environment (scanOptions form languages ref)
          (scanPlan environment form languages path) events report metrics with
        gitCalls := calls } := by
  have hfail : FailAlike path
      { result := Tools.render format report, events := toolEvents, gitCalls := calls }
      { Command.report environment (scanOptions form languages ref)
          (scanPlan environment form languages path) events report metrics with
        gitCalls := calls } :=
    { fails_iff := fun cause failure h =>
        -- what can still fail is of a later stage
        iff_of_false (h.render_ne format report) fun hfailure => by
          obtain hstage | hstage | hstage := report_failure hfailure <;>
            obtain h | h := h.stage <;> cases hstage.symm.trans h
      gitCalls_eq := rfl }
  refine ⟨hfail, fun houtput hformat => ?_⟩
  obtain ⟨hwritten, hlost⟩ :=
    report_scanOptions languages ref path events report metrics houtput hformat
  refine ⟨hfail, fun text htext => (hwritten text htext).1, ?_⟩
  cases hresult : Tools.render format report with
  | ok text => simp [(hwritten text hresult).2]
  | error cause => simp [hlost cause hresult]

/-- Once the files are chosen, both go on alike. -/
theorem SeeAlike.auditFiles_correspond (h : SeeAlike late tools environment) (form : ReportForm)
    (format : String) (events : List Log.Event) (selection : Selection)
    (calls : List (List String)) :
    Correspond environment path form format
      { Tools.reportOn tools (scanPlan environment form languages path).path selection.diffRef
          format selection.files with gitCalls := calls }
      { auditFiles environment (scanOptions form languages ref)
          (scanPlan environment form languages path) events selection with gitCalls := calls } := by
  obtain ⟨result, htool, hprogram⟩ :=
    h.audits (scanPlan environment form languages path).settings.workers
      (scanPlan environment form languages path).path selection.files
  simp only [Tools.reportOn, auditFiles, htool, hprogram]
  cases result with
  | error cause => exact SameFailure.correspond (.audit cause) rfl rfl rfl
  | ok found => exact correspond_of_finished ..

/-! ### The choice of the files -/

/-- The tool chooses its files once it accepts its arguments. -/
theorem auditPath_eq (tools : Tools.Environment) (hpath : path ≠ "")
    (hlanguages : ∀ l ∈ languages, Language.isSupported l = true) (ref format : String) :
    auditPath tools path ref languages format =
      match sourceFiles tools.system
          (ignorePatterns? tools.system (Path.absolute tools.system.cwd path) [])
          (Path.absolute tools.system.cwd path) with
      | .error cause => { result := .error (.walk cause) }
      | .ok found =>
        if ref = "" then
          Tools.reportOn tools (Path.absolute tools.system.cwd path) ref format
            (keepLanguages languages found)
        else
          match Git.diffAgainst tools.git ref with
          | (.error cause, calls) => { result := .error (.diff ref cause), gitCalls := calls }
          | (.ok diff, calls) =>
            { Tools.reportOn tools (Path.absolute tools.system.cwd path) ref format
                (diff.keepChanged (keepLanguages languages found)) with
              gitCalls := calls } := by
  have hsupported : languages.find? (!Language.isSupported ·) = none := by
    rw [List.find?_eq_none]
    simpa using hlanguages
  rewrite [auditPath, if_neg hpath, hsupported]
  rfl

/-- The program chooses its files by its settings, among which are no further ignore lines. -/
theorem select_scanOptions (environment : Command.Environment) (form : ReportForm)
    (languages : List String) (ref path : String) :
    Command.select environment path (scanOptions form languages ref)
        (scanPlan environment form languages path) =
      match sourceFiles environment.system
          (ignorePatterns? environment.system (Path.absolute environment.system.cwd path) [])
          (Path.absolute environment.system.cwd path) with
      | .error cause => (.error (.walk path cause), [])
      | .ok found =>
        let files := keepLanguages languages found
        if ref = "" then (.ok { files := files }, [])
        else
          match Git.diffAgainst environment.git ref with
          | (.error cause, calls) => (.error (.diff ref cause), calls)
          | (.ok diff, calls) =>
            let files := diff.keepChanged files
            let selection : Selection :=
              { files := files, diffRef := ref, events := [changedEvent diff files] }
            (.ok selection, calls) := by
  have hexclude : (scanPlan environment form languages path).settings.exclude = [] := by
    cases form <;> rfl
  have hlanguages : (scanPlan environment form languages path).settings.languages.map (·.shown) =
      languages := Raw.map_shown_ofString languages
  rw [Command.select, hexclude, hlanguages]
  by_cases href : ref = ""
  · have hdiff : (scanOptions form languages ref).diff = false := by simp [scanOptions, href]
    simp only [hdiff, Bool.false_eq_true, if_pos href, if_false]
    rfl
  · have hdiff : (scanOptions form languages ref).diff = true := by simp [scanOptions, href]
    have hagainst : (scanOptions form languages ref).ref = ref := if_neg href
    simp only [hdiff, hagainst, if_neg href, if_true]
    rfl

end

/-- A tool and a command line ask for the same scan of a directory in which no settings file is
found, whatever the languages, the reference, the git outputs and the schedules of the workers. One
of them fails on the walk, the git calls or the audit just if the other does, and in both forms of a
report they agree. -/
theorem tool_agrees_with_command {late : List SourceFile → Prop} {tools : Tools.Environment}
    {environment : Command.Environment} (hsee : SeeAlike late tools environment) {path : String}
    (hpath : HasNoSettings environment.system path) {languages : List String}
    (hlanguages : ∀ l ∈ languages, Language.isSupported l = true) (ref : String)
    {directory : List String} (hdirectory : Names path directory) (form : ReportForm)
    (format : String) :
    Correspond environment path form format (auditPath tools path ref languages format)
      (run environment (scanWords form languages ref ++ directory)) := by
  rw [auditPath_eq tools hpath.ne_empty hlanguages, hsee.system_eq, hsee.git_eq,
    run_scanWords environment form hlanguages ref hdirectory, Command.scan,
    hpath.plan_eq form hlanguages]
  simp only [execute, select_scanOptions]
  cases hwalk : sourceFiles environment.system
      (ignorePatterns? environment.system (Path.absolute environment.system.cwd path) [])
      (Path.absolute environment.system.cwd path) with
  | error cause => exact SameFailure.correspond (.walk cause) rfl rfl rfl
  | ok found =>
    by_cases href : ref = ""
    · subst href
      exact hsee.auditFiles_correspond form format _ { files := keepLanguages languages found } []
    · simp only [if_neg href]
      cases hdiff : Git.diffAgainst environment.git ref with
      | mk result calls =>
        cases result with
        | error cause => exact SameFailure.correspond (.diff ref cause) rfl rfl rfl
        | ok diff =>
          let files := diff.keepChanged (keepLanguages languages found)
          exact hsee.auditFiles_correspond form format _
            { files := files, diffRef := ref, events := [changedEvent diff files] } calls

/-- A directory with a change in one file. -/
def projectOf (entries : List Node) : Command.Environment where
  system := { top := [.dir "project" entries], cwd := "/" }
  git arguments :=
    .ok (encodeString (if arguments = Git.untrackedArguments then "" else "1\t0\ta.py\n"))
  guid := ""

/-- Tools for it. -/
def toolsOf (entries : List Node) : Tools.Environment where
  system := (projectOf entries).system
  git := (projectOf entries).git

theorem toolsOf_seeAlike (entries : List Node) :
    SeeAlike (fun files => false = true ∧ files ≠ []) (toolsOf entries) (projectOf entries) where
  system_eq := rfl
  git_eq := rfl
  tools_turns := Workers.inOrder_takesTurns false
  turns := Workers.inOrder_takesTurns false

theorem rooted_project : "/project" = Path.rooted ["project"] := by decide +kernel

theorem projectOf_find (entries : List Node) (follow : Bool) :
    (projectOf entries).system.find follow (Path.rooted ["project"]) =
      .ok (.dir "project" entries) :=
  System.find_top (by decide) rfl (by simp)

theorem projectOf_lstat (entries : List Node) :
    (projectOf entries).system.lstat "/project" = .ok (.dir "project" entries) := by
  rw [System.lstat, rooted_project, projectOf_find]
  rfl

theorem projectOf_absolute (entries : List Node) :
    Path.absolute (projectOf entries).system.cwd "project" = "/project" := by
  show Path.absolute "/" "project" = "/project"
  decide +kernel

theorem projectOf_hasNoSettings {entries : List Node}
    (h : lookupEntry Settings.defaultFile entries = none) :
    HasNoSettings (projectOf entries).system "project" := by
  have hcwd : Path.isAbsolute (projectOf entries).system.cwd = true := by
    show Path.isAbsolute "/" = true
    decide +kernel
  have hdir : (projectOf entries).system.find true
      (Path.absolute (projectOf entries).system.cwd "project") = .ok (.dir "project" entries) := by
    rw [projectOf_absolute, rooted_project, projectOf_find]
  exact hasNoSettings_of_entries hcwd (by decide) hdir rfl h

/-- One source file with a marker. -/
def smallEntries : List Node := [.file "a.py" (encodeString "# NOSONAR")]

/-- A directory that cannot be read. -/
def lockedEntries : List Node := [.dir "locked" [] { read := false }]

theorem sourcesOf_lockedEntries (ignored : String → Bool) :
    sourcesOf ignored "/project" (.dir "project" lockedEntries) =
      .error ⟨"open", Path.joinTo "/project" "locked", .permission⟩ := by
  simp [lockedEntries, sourcesOf, sourcesIn, sourcesAt, inNameOrder, Node.name, Except.map]

theorem auditPath_smallEntries : ∃ text,
    (auditPath (toolsOf smallEntries) "project" "main" ["py"] "json").result = .ok text := by
  obtain ⟨all, hall⟩ : ∃ all, sourcesOf (isIgnored (ignorePatterns?
      (projectOf smallEntries).system "/project" [])) "/project" (.dir "project" smallEntries) =
        .ok all :=
    Walk.sourcesOf_of_readable (by simp [smallEntries, Node.Readable, Node.ReadableAll])
  rw [auditPath_eq _ (by decide) (by decide)]
  simp only [toolsOf, projectOf_absolute, sourceFiles, projectOf_lstat, hall]
  exact ⟨_, rfl⟩

theorem auditPath_lockedEntries :
    (auditPath (toolsOf lockedEntries) "project" "main" ["py"] "json").result =
      .error (.walk ⟨"open", Path.joinTo "/project" "locked", .permission⟩) := by
  rw [auditPath_eq _ (by decide) (by decide)]
  simp only [toolsOf, projectOf_absolute, sourceFiles, projectOf_lstat, sourcesOf_lockedEntries]

/-- Of the one project the tool answers with the document that the program prints, and of the other
one both say that a directory cannot be opened. -/
theorem smallProject_agrees :
    (∀ entries ∈ [smallEntries, lockedEntries],
      SeeAlike (fun files => false = true ∧ files ≠ []) (toolsOf entries) (projectOf entries) ∧
      HasNoSettings (projectOf entries).system "project") ∧
    (∀ l ∈ ["py"], Language.isSupported l = true) ∧ Names "project" ["project"] ∧
    (∃ text, (auditPath (toolsOf smallEntries) "project" "main" ["py"] "json").result = .ok text ∧
      (run (projectOf smallEntries) ["--format", "json", "--lang", "py", "--diff", "--ref", "main",
        "project"]).output = text ++ "\n") ∧
    ∃ cause, (auditPath (toolsOf lockedEntries) "project" "main" ["py"] "json").result =
        .error (.walk cause) ∧
      (run (projectOf lockedEntries) ["--format", "json", "--lang", "py", "--diff", "--ref",
        "main", "project"]).failure = some (.walk "project" cause) := by
  have hlanguages : ∀ l ∈ ["py"], Language.isSupported l = true := by decide
  have hnames : Names "project" ["project"] := .plain (by decide +kernel) (by decide)
  have hsettings : ∀ entries ∈ [smallEntries, lockedEntries],
      HasNoSettings (projectOf entries).system "project" := by
    intro entries hentries
    refine projectOf_hasNoSettings ?_
    rcases List.mem_cons.mp hentries with rfl | hentries
    · rfl
    · obtain rfl := List.mem_singleton.mp hentries
      rfl
  have hagree (entries : List Node) (hentries : entries ∈ [smallEntries, lockedEntries]) :=
    tool_agrees_with_command (toolsOf_seeAlike entries) (hsettings entries hentries) hlanguages
      "main" hnames .document "json"
  refine ⟨fun entries hentries => ⟨toolsOf_seeAlike entries, hsettings entries hentries⟩,
    hlanguages, hnames, ?_, ?_⟩
  · obtain ⟨text, htext⟩ := auditPath_smallEntries
    have hsame := (hagree smallEntries (by simp)).agree (fun _ => rfl) List.mem_cons_self
    exact ⟨text, htext, hsame.output_eq text htext⟩
  · have hfails := (hagree lockedEntries (by simp)).failAlike.fails_iff
    exact ⟨_, auditPath_lockedEntries, (hfails _ _ (.walk _)).mp auditPath_lockedEntries⟩

end InlineAudit
