import InlineAudit.Command.Program
import InlineAudit.Proofs.Command.Findings
import InlineAudit.Proofs.Scan
import InlineAudit.Proofs.Tools.Agreement

/-!
How command lines end. A scan goes through stages that can fail, and only behind the last of them is
anything left behind: first the report, then the counters. So a run that fails for anything else
leaves nothing, except that an output that fails has taken the front of a text, and a terminal may
show something when browsing fails. When all stages succeed, the findings decide.
-/

namespace InlineAudit.Command

open Files

/-! ### What a failed run leaves behind -/

/-- A failure that comes when the report is out. -/
def Failure.isLate : Failure → Bool
  | .counters _ => true
  | .findings => true
  | _ => false

/-- A failure of the output or of the terminal itself. -/
def Failure.ofOutput : Failure → Bool
  | .output _ => true
  | .browser _ => true
  | _ => false

/-- Nothing is printed and no counters are written when a run fails for anything else. -/
def Run.FailsEmpty (run : Run) : Prop :=
  ∀ failure, run.failure = some failure → failure.isLate = false →
    run.output = "" ∧ run.metrics = none

/-- Neither an output nor a terminal has anything on it when it fails. -/
structure Environment.LeavesNothing (environment : Environment) : Prop where
  write : ∀ text, (environment.write text).failure ≠ none → (environment.write text).output = ""
  present : ∀ report, (environment.present report).failure ≠ none →
    (environment.present report).output = ""

/-- What is left behind by a run that fails before its report is out: no counters, and on the output
nothing, unless it is the output that fails, or the terminal. Then it is what that took of a text,
or shows, by then. -/
structure Run.FailsCleanly (environment : Environment) (run : Run) : Prop where
  uncounted : ∀ failure, run.failure = some failure → failure.isLate = false → run.metrics = none
  empty : ∀ failure, run.failure = some failure → failure.isLate = false →
    failure.ofOutput = false → run.output = ""
  refused : ∀ cause, run.failure = some (.output cause) → ∃ text,
    environment.write text = { output := run.output, failure := some (.output cause) }
  browsed : ∀ cause, run.failure = some (.browser cause) → ∃ report,
    environment.present report = { output := run.output, failure := some (.browser cause) }

theorem Run.FailsCleanly.failsEmpty {environment : Environment} {run : Run}
    (h : run.FailsCleanly environment) (hnothing : environment.LeavesNothing) :
    run.FailsEmpty := by
  intro failure hfailure hlate
  refine ⟨?_, h.uncounted failure hfailure hlate⟩
  cases houtput : failure.ofOutput with
  | false => exact h.empty failure hfailure hlate houtput
  | true =>
    cases failure with
    | output cause =>
      obtain ⟨text, hwrite⟩ := h.refused cause hfailure
      simpa [hwrite] using hnothing.write text
    | browser cause =>
      obtain ⟨report, hpresent⟩ := h.browsed cause hfailure
      simpa [hpresent] using hnothing.present report
    | _ => cases houtput

section

variable {environment : Environment} {run : Run}

/-- A run that is not about the output, and leaves nothing if it fails. -/
theorem Run.failsCleanly_of_stage
    (h : ∀ failure, run.failure = some failure → failure.stage ≠ .report ∧
      (failure.isLate = false → run.output = "" ∧ run.metrics = none)) :
    run.FailsCleanly environment where
  uncounted failure hfailure hlate := ((h failure hfailure).2 hlate).2
  empty failure hfailure hlate _ := ((h failure hfailure).2 hlate).1
  refused _ hfailure := absurd rfl (h _ hfailure).1
  browsed _ hfailure := absurd rfl (h _ hfailure).1

theorem Run.failsCleanly_of_success (h : run.failure = none) : run.FailsCleanly environment :=
  failsCleanly_of_stage fun failure hfailure => by
    rw [h] at hfailure
    cases hfailure

theorem Run.failsCleanly_failed {failure : Failure} (h : failure.stage ≠ .report) :
    (Run.failed failure).FailsCleanly environment :=
  failsCleanly_of_stage fun failure' hfailure => by
    obtain rfl := Option.some.inj hfailure
    exact ⟨h, fun _ => ⟨rfl, rfl⟩⟩

/-- What is logged and asked of git is no matter. -/
theorem Run.FailsCleanly.logged (h : run.FailsCleanly environment) (log : String)
    (calls : List (List String)) :
    { run with log := log, gitCalls := calls }.FailsCleanly environment where
  uncounted := h.uncounted
  empty := h.empty
  refused := h.refused
  browsed := h.browsed

theorem write_cases (environment : Environment) (text : String) :
    environment.write text = { output := text } ∨ ∃ output cause,
      environment.write text = { output := output, failure := some (.output cause) } := by
  rw [Environment.write]
  split
  · exact .inl rfl
  · exact .inr ⟨_, _, rfl⟩

theorem write_failsCleanly (environment : Environment) (text : String) :
    (environment.write text).run.FailsCleanly environment := by
  obtain hwrite | ⟨output, cause, hwrite⟩ := write_cases environment text
  · rw [hwrite]
    exact Run.failsCleanly_of_success rfl
  · rw [hwrite]
    exact {
      uncounted := fun _ _ _ => rfl
      empty := fun failure hfailure _ houtput => by
        obtain rfl := Option.some.inj hfailure
        cases houtput
      refused := fun cause' hfailure => ⟨text, by
        obtain rfl := Failure.output.inj (Option.some.inj hfailure)
        exact hwrite⟩
      browsed := fun cause' hfailure => by cases hfailure }

theorem print_failsCleanly (environment : Environment) (text : String) :
    (environment.print text).run.FailsCleanly environment :=
  Run.failsCleanly_of_success rfl

theorem present_failsCleanly (environment : Environment) (report : Report) :
    (environment.present report).run.FailsCleanly environment where
  uncounted _ _ _ := rfl
  empty failure hfailure _ houtput := by
    obtain ⟨cause, -, rfl⟩ := Option.map_eq_some_iff.mp hfailure
    cases houtput
  refused cause hfailure := by
    obtain ⟨cause', -, hcause⟩ := Option.map_eq_some_iff.mp hfailure
    cases hcause
  browsed cause hfailure := ⟨report, congrArg (Written.mk _) hfailure⟩

theorem render_failsCleanly (environment : Environment) (options : Options) (format : String)
    (report : Report) :
    (render environment options format report).run.FailsCleanly environment := by
  have hnothing {failure : Failure} (h : failure.ofOutput = false) :
      ({ failure := some failure } : Written).run.FailsCleanly environment := {
    uncounted := fun _ _ _ => rfl
    empty := fun _ _ _ _ => rfl
    refused := fun cause hfailure => by
      obtain rfl := Option.some.inj hfailure
      cases h
    browsed := fun cause hfailure => by
      obtain rfl := Option.some.inj hfailure
      cases h }
  rw [render]
  split
  · split
    · exact present_failsCleanly environment report
    · exact hnothing rfl
  · split
    · exact write_failsCleanly environment _
    · split
      · exact write_failsCleanly environment _
      · split
        · exact print_failsCleanly environment _
        · exact hnothing rfl

/-! ### Scans -/

variable {root : String} {options : Options}

theorem Ends.failsCleanly (h : Ends environment root options run) :
    run.FailsCleanly environment := by
  cases h with
  | unplanned hplan => exact Run.failsCleanly_failed (by simp [plan_eq_error hplan])
  | @unselected _ failure log calls hselect =>
    have hstage : failure.stage ≠ .report := by simp [select_eq_error hselect]
    exact (Run.failsCleanly_failed hstage).logged log calls
  | @unaudited cause log calls =>
    have hstage : (Failure.audit cause).stage ≠ .report := by simp [Failure.stage]
    exact (Run.failsCleanly_failed hstage).logged log calls
  | @unrendered plan selection found failure log calls haudits hrender =>
    have hclean := render_failsCleanly environment options plan.settings.format.shown
      (selection.report found)
    rw [Written.run, hrender] at hclean
    exact hclean.logged log calls
  | uncounted =>
    refine Run.failsCleanly_of_stage fun failure hfailure => ?_
    obtain rfl := Option.some.inj hfailure
    exact ⟨by simp [Failure.stage], fun hlate => by cases hlate⟩
  | completed =>
    refine Run.failsCleanly_of_stage fun failure hfailure => ?_
    dsimp only at hfailure
    split at hfailure
    · obtain rfl := Option.some.inj hfailure
      exact ⟨by simp [Failure.stage], fun hlate => by cases hlate⟩
    · cases hfailure

theorem Ends.nothing_counted (h : Ends environment root options run) {cause : String}
    (hfailure : run.failure = some (.counters cause)) :
    run.metrics = none ∧ environment.refused options.metricsOut = some cause := by
  cases h.failsAt hfailure with
  | early hstage => simp [Failure.stage] at hstage
  | report _ hrender => cases (render_failure hrender).1
  | counters hmetrics hrefused => exact ⟨hmetrics, hrefused⟩

theorem Ends.shown (h : Ends environment root options run) {late : List SourceFile → Prop}
    (hturns : environment.machine.workers.TakeTurns late)
    (hroot : ∀ node,
      environment.system.lstat (Path.absolute environment.system.cwd root) = .ok node →
        node.WellFormed) : run.failure ≠ some .noTree := by
  intro hfailure
  cases h.failsAt hfailure with
  | early hstage => simp [Failure.stage] at hstage
  | @report plan selection found _ haudits hrender =>
    have htext := (render_failure hrender).2 rfl
    rw [← (plan_eq_ok haudits.planned).1] at hroot
    have hselect : select environment root options plan =
        (.ok selection, (select environment root options plan).2) := Prod.ext haudits.selected rfl
    obtain ⟨all, diff, hall, -⟩ := select_files hselect
    cases hlstat : environment.system.lstat plan.path with
    | error cause =>
      rw [sourceFiles, hlstat] at hall
      cases hall
    | ok node =>
      have hshow := selection_showable (hroot node hlstat) hturns hlstat hselect haudits.audited
      have hsome := hshow.text (finishOf options.noColour environment.colours)
      rw [Selection.report] at htext
      rw [htext] at hsome
      cases hsome

end

/-- A run of a scan, and what is to be said about it whatever comes of it. -/
structure EndsCleanly (environment : Environment) (root : String) (options : Options) (run : Run) :
    Prop where
  failsCleanly : run.FailsCleanly environment
  nothing_counted : ∀ cause, run.failure = some (.counters cause) →
    run.metrics = none ∧ environment.refused options.metricsOut = some cause
  all_left : ∀ plan selection found output metrics,
    Completes environment root options plan selection found output metrics →
    run.output = output ∧ run.metrics = metrics
  findings_iff : run.failure = some .findings ↔
    ∃ plan selection found output metrics,
      Completes environment root options plan selection found output metrics ∧
        plan.settings.failOnFindings = true ∧ found.issues ≠ []
  succeeds_iff : run.failure = none ↔
    ∃ plan selection found output metrics,
      Completes environment root options plan selection found output metrics ∧
        (plan.settings.failOnFindings = true → found.issues = [])
  /-- In a tree with distinct names there is a way to show every report. -/
  shown : ∀ late, environment.machine.workers.TakeTurns late →
    (∀ node, environment.system.lstat (Path.absolute environment.system.cwd root) = .ok node →
      node.WellFormed) → run.failure ≠ some .noTree

theorem scan_endsCleanly (environment : Environment) (root : String) (options : Options) :
    EndsCleanly environment root options (scan environment root options) where
  failsCleanly := (scan_ends environment root options).failsCleanly
  nothing_counted _ := (scan_ends environment root options).nothing_counted
  all_left _ _ _ _ _ h := ⟨h.leaves.1, h.leaves.2.1⟩
  findings_iff := by
    constructor
    · intro hfailure
      obtain ⟨plan, selection, found, output, metrics, h⟩ :=
        (scan_ends environment root options).completes_of_findings hfailure
      rw [h.leaves.2.2] at hfailure
      exact ⟨plan, selection, found, output, metrics, h, by simpa using hfailure⟩
    · rintro ⟨plan, selection, found, output, metrics, h, hfail, hissues⟩
      rw [h.leaves.2.2]
      simp [hfail, hissues]
  succeeds_iff := by
    constructor
    · intro hfailure
      obtain ⟨plan, selection, found, output, metrics, h⟩ :=
        (scan_ends environment root options).completes_of_success hfailure
      rw [h.leaves.2.2] at hfailure
      exact ⟨plan, selection, found, output, metrics, h, by simpa using hfailure⟩
    · rintro ⟨plan, selection, found, output, metrics, h, hissues⟩
      rw [h.leaves.2.2]
      simpa using hissues
  shown _ := (scan_ends environment root options).shown

/-! ### Command lines -/

section

variable (environment : Environment) (words : List String)

/-- What a command does is either to print, or to fail and print nothing. -/
theorem Subcommand.execute_cases (command : Subcommand) (options : SmallOptions)
    (arguments : List String) :
    (∃ output, command.execute options arguments = .printed output) ∨
      ∃ failure, command.execute options arguments = .failed failure ∧
        failure.stage = .words := by
  unfold Subcommand.execute
  split
  · exact .inl ⟨_, rfl⟩
  · exact .inl ⟨_, rfl⟩
  · exact .inr ⟨_, rfl, rfl⟩
  · exact .inl ⟨_, rfl⟩
  · exact .inr ⟨_, rfl, rfl⟩

/-- Of an empty text an output takes nothing, even if it fails. -/
theorem write_empty : (environment.write "").output = "" := by
  rw [Environment.write]
  split
  · rfl
  · simp

theorem Run.deliver_failed {failure : Failure} (hstage : failure.stage ≠ .report)
    (asksOutput : Bool) :
    ((Run.failed failure).deliver environment asksOutput).FailsCleanly environment := by
  refine failsCleanly_of_stage fun failure' hfailure => ?_
  obtain rfl : failure = failure' := by simpa [deliver, Run.failed] using hfailure
  exact ⟨hstage, fun _ => ⟨write_empty environment, rfl⟩⟩

theorem Run.deliver_printed (output : String) (asksOutput : Bool) :
    ((Run.printed output).deliver environment asksOutput).FailsCleanly environment := by
  cases asksOutput with
  | false => exact failsCleanly_of_success rfl
  | true => exact write_failsCleanly environment output

theorem Subcommand.run_failsCleanly (command : Subcommand) :
    (command.run environment words).FailsCleanly environment := by
  rw [Subcommand.run]
  split
  · exact Run.failsCleanly_failed (by simp [Failure.stage])
  · rename_i options arguments _
    split
    · exact print_failsCleanly environment _
    · obtain ⟨output, hrun⟩ | ⟨failure, hrun, hstage⟩ :=
        command.execute_cases options arguments
      · rw [hrun]
        exact Run.deliver_printed environment output _
      · rw [hrun]
        exact Run.deliver_failed environment (by simp [hstage]) _

theorem Shell.run_failsCleanly (shell : Shell) :
    (shell.run environment words).FailsCleanly environment := by
  rw [Shell.run]
  split
  · exact Run.failsCleanly_failed (by simp [Failure.stage])
  · split
    · exact print_failsCleanly environment _
    · split
      · exact write_failsCleanly environment _
      · exact Run.failsCleanly_failed (by simp [Failure.stage])

theorem Standard.run_failsCleanly (command : Standard) :
    (command.run environment words).FailsCleanly environment := by
  cases command with
  | help =>
    rw [Standard.run, runHelp]
    split
    · exact Run.failsCleanly_failed (by simp [Failure.stage])
    · exact print_failsCleanly environment _
  | completion =>
    rw [Standard.run, runCompletion]
    split
    · exact Shell.run_failsCleanly environment _ _
    · split
      · exact Run.failsCleanly_failed (by simp [Failure.stage])
      · exact print_failsCleanly environment _
  | complete described =>
    rw [Standard.run, runComplete]
    split
    · exact Run.failsCleanly_failed (by simp [Failure.stage])
    · exact Run.failsCleanly_of_success rfl

theorem runScan_failsCleanly : (runScan environment words).FailsCleanly environment := by
  rw [runScan]
  split
  · exact Run.failsCleanly_failed (by simp [Failure.stage])
  · split
    · exact print_failsCleanly environment _
    · split
      · exact write_failsCleanly environment _
      · split
        · exact (scan_ends ..).failsCleanly
        · exact (scan_ends ..).failsCleanly
        · exact Run.failsCleanly_failed (by simp [Failure.stage])

theorem run_failsCleanly : (run environment words).FailsCleanly environment := by
  rw [run]
  split
  · rename_i command _
    cases command with
    | subcommand command => exact command.run_failsCleanly environment _
    | standard command => exact command.run_failsCleanly environment _
  · exact runScan_failsCleanly environment words

end

/-- Nothing is left behind by a command line that fails, unless the report was out already; at most
an output or a terminal that fails has something on it by then. All a scan leaves and how it ends
goes by its stages; findings are the last thing asked, and whether they count as a failure changes
nothing else, be it a flag that says so or anything else. With the same schedule of the workers the
log is the same too, and with another one it may tell of the files in another order. -/
theorem scan_fails_cleanly :
    (∀ environment words, (run environment words).FailsCleanly environment ∧
      (environment.LeavesNothing → (run environment words).FailsEmpty)) ∧
    (∀ environment root options,
      EndsCleanly environment root options (scan environment root options)) ∧
    (∀ a b : Invocation, SameButFindings a b →
      (a.environment.machine = b.environment.machine → SameEffects a.run b.run) ∧
      ∀ late, a.environment.machine.workers.TakeTurns late →
        b.environment.machine.workers.TakeTurns late → SameButOrder a.run b.run) ∧
    ∀ environment root options flag,
      SameButFindings ⟨environment, root, options⟩
        ⟨environment, root, { options with failOnFindings := flag }⟩ := by
  refine ⟨fun environment words => ?_, scan_endsCleanly, fun a b h => ?_, sameButFindings_flag⟩
  · have hclean := run_failsCleanly environment words
    exact ⟨hclean, hclean.failsEmpty⟩
  · exact ⟨h.sameEffects, fun _ => h.sameButOrder⟩

/-- A call for the small project, where its marker is a failure or is not. -/
def smallCall (failing : Bool) : Invocation where
  environment := projectOf smallEntries
  root := "project"
  options := { scanOptions .document ["py"] "" with failOnFindings := some failing }

theorem smallEntries_read : (projectOf smallEntries).system.read (Path.joinTo "/project" "a.py") =
    .ok (Text.encodeString "# NOSONAR") := by
  have hnames : ∀ name ∈ ["project"], Path.IsName name := List.forall_mem_singleton.mpr (by decide)
  rw [rooted_project]
  exact System.read_joinTo hnames (by decide) (projectOf_find _ _) rfl rfl rfl

theorem smallEntries_sources :
    sourceFiles (projectOf smallEntries).system
        (ignorePatterns? (projectOf smallEntries).system "/project" []) "/project" =
      .ok [{ path := "a.py", size := 9, ext := ".py", language := "py" }] := by
  have hnames : ∀ name ∈ ["project"], Path.IsName name := List.forall_mem_singleton.mpr (by decide)
  have hmissing : lookupEntry ".gitignore" smallEntries = none := rfl
  have hgone := System.find_joinTo_missing hnames (by decide) (projectOf_find _ true) rfl hmissing
  have hpatterns : ignorePatterns? (projectOf smallEntries).system "/project" [] = none := by
    rw [rooted_project, ignorePatterns?, System.read, hgone]
    rfl
  rw [hpatterns, sourceFiles, projectOf_lstat]
  decide +kernel

theorem smallCall_completes (failing : Bool) : ∃ plan selection found output metrics,
    Completes (projectOf smallEntries) "project" (smallCall failing).options plan selection found
      output metrics ∧
      plan.settings.failOnFindings = failing ∧ found.issues ≠ [] := by
  have hlanguages : ∀ l ∈ ["py"], Language.isSupported l = true := by decide
  have hplan : Command.plan (projectOf smallEntries) "project" (smallCall failing).options =
      .ok ((scanPlan (projectOf smallEntries) .document ["py"] "project").setFindings failing) := by
    have hnone : lookupEntry Settings.defaultFile smallEntries = none := rfl
    have hbase := (projectOf_hasNoSettings hnone).plan_eq .document hlanguages ""
    rw [smallCall, ← plan_setFindings, hbase]
    rfl
  have hpath : (scanPlan (projectOf smallEntries) .document ["py"] "project").path = "/project" :=
    projectOf_absolute smallEntries
  have hselect : (select (projectOf smallEntries) "project" (scanOptions .document ["py"] "")
      (scanPlan (projectOf smallEntries) .document ["py"] "project")).1 =
        .ok { files := [{ path := "a.py", size := 9, ext := ".py", language := "py" }] } := by
    rw [select_scanOptions, projectOf_absolute, smallEntries_sources]
    rfl
  have hissues : issuesOf "a.py" "py" (findingsOfBytes (Text.encodeString "# NOSONAR")) ≠ [] := by
    decide +kernel
  have hrendered (report : Report) : render (projectOf smallEntries) (smallCall failing).options
      (Text.Raw.ofString "json").shown report = { output := report.json } := by
    rw [Text.Raw.shown_ofString]
    rfl
  refine ⟨_, _, _, _, none, ⟨⟨hplan, (plan_eq_ok hplan).2, hselect, rfl⟩, hrendered _, rfl⟩,
    rfl, ?_⟩
  show (Report.ofOutcomes _ _).issues ≠ []
  rw [Plan.setFindings, hpath]
  simp [Report.ofOutcomes, examine, smallEntries_read, Outcome.isUnreadable, Outcome.found, hissues]

theorem projectOf_leavesNothing (entries : List Node) : (projectOf entries).LeavesNothing where
  write _ h := absurd rfl h
  present _ h := absurd rfl h

/-- The two calls differ in the failure and in nothing else, and no command line that fails for the
project leaves anything before its report. -/
theorem smallCall_fails :
    (projectOf smallEntries).LeavesNothing ∧
      (∀ words, (run (projectOf smallEntries) words).FailsEmpty) ∧
      SameButFindings (smallCall false) (smallCall true) ∧
      SameEffects (smallCall false).run (smallCall true).run ∧
      SameButOrder (smallCall false).run (smallCall true).run ∧
      (smallCall false).run.failure = none ∧ (smallCall true).run.failure = some .findings := by
  obtain ⟨hclean, hends, hsame, hflag⟩ := scan_fails_cleanly
  have hnothing := projectOf_leavesNothing smallEntries
  have hcalls : SameButFindings (smallCall false) (smallCall true) :=
    hflag (projectOf smallEntries) "project" (smallCall false).options (some true)
  obtain ⟨heffects, horder⟩ := hsame _ _ hcalls
  have hturns := Workers.inOrder_takesTurns false
  obtain ⟨plan, selection, found, output, metrics, hcompletes, hfailing, -⟩ :=
    smallCall_completes false
  refine ⟨hnothing, fun words => (hclean _ words).2 hnothing, hcalls, heffects rfl,
    horder _ hturns hturns, ?_, (hends _ _ _).findings_iff.mpr (smallCall_completes true)⟩
  refine (hends _ _ _).succeeds_iff.mpr
    ⟨plan, selection, found, output, metrics, hcompletes, fun h => ?_⟩
  rw [hfailing] at h
  cases h

end InlineAudit.Command
