import InlineAudit.Proofs.Audit.Turns
import InlineAudit.Proofs.Command.Stages
import InlineAudit.Proofs.Git.Diff

/-!
Whether findings count as a failure. That is asked at the very end of a scan, when all is written,
so it changes nothing but the failure: setting it aside before a scan is the same as setting aside
the failure behind it (`scan_lenient`). Two calls that settle on the same but for that, and see the
same, therefore leave the same behind. If their workers take turns in different ways, the log may
tell of the files in another order, and nothing else differs.
-/

namespace InlineAudit

open Files

/-- Settings that say whether findings are a failure, whatever they said before. -/
def Settings.setFindings (failing : Bool) (settings : Settings) : Settings :=
  { settings with failOnFindings := failing }

namespace Command

/-! ### Findings set aside -/

def Plan.setFindings (failing : Bool) (plan : Plan) : Plan :=
  { plan with settings := plan.settings.setFindings failing }

/-- A plan under which findings are no failure. -/
def Plan.lenient (plan : Plan) : Plan := plan.setFindings false

/-- A run without the failure that is due to findings. -/
def Run.lenient (run : Run) : Run :=
  { run with failure := run.failure.filter (· ≠ .findings) }

theorem Run.lenient_of_stage {run : Run} {failure : Failure} (hfailure : run.failure = some failure)
    (hstage : failure.stage ≠ .findings) : run.lenient = run := by
  have hne : failure ≠ .findings := by
    rintro rfl
    exact hstage rfl
  cases run
  subst hfailure
  simp [lenient, hne]

theorem Run.lenient_failure_iff {run : Run} {failure : Failure} (h : failure ≠ .findings) :
    run.lenient.failure = some failure ↔ run.failure = some failure := by
  simp [lenient, Option.filter_eq_some_iff, h]

section

variable (environment : Environment) (root : String) (options : Options) (plan : Plan)

theorem report_lenient (events : List Log.Event) (report : Report) (metrics : Metrics) :
    (Command.report environment options plan events report metrics).lenient =
      Command.report environment options plan.lenient events report metrics := by
  have hshown : plan.lenient.settings.format = plan.settings.format := rfl
  have hlogger : plan.lenient.logger = plan.logger := rfl
  rw [Command.report, Command.report, hshown, hlogger]
  cases hrender : (render environment options plan.settings.format.shown report).failure with
  | some failure => exact Run.lenient_of_stage rfl (by simp [(render_failure hrender).1])
  | none =>
    cases counters environment options metrics with
    | error cause => rfl
    | ok metrics =>
      have hfindings (b : Bool) :
          (if b then some Failure.findings else none).filter (· ≠ .findings) = none := by
        cases b <;> rfl
      simp only [Run.lenient, hfindings]
      rfl

theorem auditFiles_lenient (events : List Log.Event) (selection : Selection) :
    (auditFiles environment options plan events selection).lenient =
      auditFiles environment options plan.lenient events selection := by
  have haudit : environment.machine.audit environment.system plan.lenient.settings.workers
      plan.lenient.path selection.files = environment.machine.audit environment.system
        plan.settings.workers plan.path selection.files := rfl
  rw [auditFiles, auditFiles, haudit]
  cases hresult : (environment.machine.audit environment.system plan.settings.workers plan.path
      selection.files).result with
  | error cause => exact Run.lenient_of_stage rfl (by simp [Failure.stage])
  | ok found => exact report_lenient ..

theorem execute_lenient : (execute environment root options plan).lenient =
    execute environment root options plan.lenient := by
  have hselect : select environment root options plan.lenient =
      select environment root options plan := rfl
  rw [execute, execute, hselect]
  cases hselection : select environment root options plan with
  | mk result calls =>
    cases result with
    | error failure =>
      have hstage : failure.stage = .selection := select_eq_error (congrArg Prod.fst hselection)
      exact Run.lenient_of_stage rfl (by simp [hstage])
    | ok selection =>
      have haudit := auditFiles_lenient environment options plan
        [startingEvent plan.path plan.settings] selection
      exact congrArg (fun run : Run => { run with gitCalls := calls }) haudit

/-- Scans run alike up to their failure for findings when the settings that say so are set aside. -/
theorem scan_lenient : (scan environment root options).lenient =
    match (Command.plan environment root options).map Plan.lenient with
    | .error failure => .failed failure
    | .ok plan => execute environment root options plan := by
  rw [scan]
  cases hplan : Command.plan environment root options with
  | error failure =>
    -- nothing is refused for findings before there are any
    exact Run.lenient_of_stage rfl (by simp [plan_eq_error hplan])
  | ok plan => exact execute_lenient ..

end

/-! ### Two calls -/

/-- A call of the scan command. -/
structure Invocation where
  environment : Environment
  root : String
  options : Options

namespace Invocation

def plan (call : Invocation) : Except Failure Plan :=
  Command.plan call.environment call.root call.options

def run (call : Invocation) : Run := scan call.environment call.root call.options

/-- The source files in the directory of a plan, in the languages that it names. -/
def sources (call : Invocation) (plan : Plan) : Except PathError (List SourceFile) :=
  (sourceFiles call.environment.system
    (ignorePatterns? call.environment.system plan.path plan.settings.exclude) plan.path).map
      (keepLanguages (plan.settings.languages.map (·.shown)))

/-- The content of a file in the directory of a plan. -/
def read (call : Invocation) (plan : Plan) (file : SourceFile) : Except PathError Text.Bytes :=
  call.environment.system.read (Path.joinTo plan.path file.path)

/-- The files are chosen from the sources. -/
theorem select_eq (call : Invocation) (plan : Plan) :
    select call.environment call.root call.options plan =
      match call.sources plan with
      | .error cause => (.error (.walk call.root cause), [])
      | .ok files =>
        if call.options.diff then
          match Git.diffAgainst call.environment.git call.options.ref with
          | (.error cause, calls) => (.error (.diff call.options.ref cause), calls)
          | (.ok diff, calls) =>
            let files := diff.keepChanged files
            (.ok { files := files, diffRef := call.options.ref
                   events := [changedEvent diff files] }, calls)
        else (.ok { files := files }, []) := by
  rw [select, sources]
  cases sourceFiles call.environment.system
    (ignorePatterns? call.environment.system plan.path plan.settings.exclude) plan.path <;> rfl

/-- Every chosen file has the path of a source. -/
theorem mem_select {call : Invocation} {plan : Plan} {selection : Selection}
    (h : (select call.environment call.root call.options plan).1 = .ok selection)
    {file : SourceFile} (hfile : file ∈ selection.files) :
    ∃ files, call.sources plan = .ok files ∧ ∃ source ∈ files, source.path = file.path := by
  rw [select_eq] at h
  cases hsources : call.sources plan with
  | error cause =>
    rw [hsources] at h
    cases h
  | ok files =>
    rw [hsources] at h
    refine ⟨files, rfl, ?_⟩
    dsimp only at h
    split at h
    · split at h
      · cases h
      · rename_i diff calls hdiff
        obtain rfl := Except.ok.inj h
        have hpath := List.mem_map_of_mem (f := (·.path)) hfile
        rw [diff.keepChanged_paths] at hpath
        exact List.mem_map.mp (List.mem_filter.mp hpath).1
    · obtain rfl := Except.ok.inj h
      exact ⟨file, hfile, rfl⟩

end Invocation

/-- Two calls that settle on the same but for what findings mean, perhaps by a flag on one side and
by a file on the other. They see the same sources with the same contents, and whatever else is asked
about the world afterwards is answered to both alike. -/
structure SameButFindings (a b : Invocation) : Prop where
  root_eq : a.root = b.root
  plan_eq : a.plan.map Plan.lenient = b.plan.map Plan.lenient
  sources_eq : ∀ plan, a.plan = .ok plan → a.sources plan = b.sources plan
  read_eq : ∀ plan files, a.plan = .ok plan → a.sources plan = .ok files →
    ∀ file ∈ files, a.read plan file = b.read plan file
  git_eq : a.environment.git = b.environment.git
  diff_eq : a.options.diff = b.options.diff
  ref_eq : a.options.ref = b.options.ref
  interactive_eq : a.options.interactive = b.options.interactive
  terminal_eq : a.environment.terminal = b.environment.terminal
  browse_eq : a.environment.browse = b.environment.browse
  noColour_eq : a.options.noColour = b.options.noColour
  colours_eq : a.environment.colours = b.environment.colours
  guid_eq : a.environment.guid = b.environment.guid
  refusedOutput_eq : a.environment.refusedOutput = b.environment.refusedOutput
  metricsOut_eq : a.options.metricsOut = b.options.metricsOut
  refused_eq : a.environment.refused a.options.metricsOut
    = b.environment.refused a.options.metricsOut

/-- Two runs that leave the same behind, but for the log, and differ at most in whether they fail
for findings. -/
structure SameOutcome (a b : Run) : Prop where
  output_eq : a.output = b.output
  metrics_eq : a.metrics = b.metrics
  gitCalls_eq : a.gitCalls = b.gitCalls
  failure_eq : ∀ failure, failure ≠ .findings →
    (a.failure = some failure ↔ b.failure = some failure)

/-- And the log. -/
structure SameEffects (a b : Run) : Prop extends SameOutcome a b where
  log_eq : a.log = b.log

/-- The log may tell in another order what became of the files. If an audit is cancelled, there is
no telling how far it came. -/
structure SameButOrder (a b : Run) : Prop extends SameOutcome a b where
  log_perm : a.failure ≠ some (.audit .cancelled) →
    ∃ (logger : Log.Logger) (before told told' after : List Log.Event),
      told.Perm told' ∧
      (∀ event ∈ told, ∃ (file : SourceFile) (outcome : Outcome), event ∈ outcome.events file) ∧
      a.log = logger.write (before ++ told ++ after) ∧
      b.log = logger.write (before ++ told' ++ after)

theorem SameOutcome.of_lenient {a b : Run} (h : SameOutcome a.lenient b.lenient) :
    SameOutcome a b where
  output_eq := h.output_eq
  metrics_eq := h.metrics_eq
  gitCalls_eq := h.gitCalls_eq
  failure_eq failure hne := by
    exact (Run.lenient_failure_iff hne).symm.trans
      ((h.failure_eq failure hne).trans (Run.lenient_failure_iff hne))

theorem SameOutcome.of_eq {a b : Run} (h : a = b) : SameOutcome a b := by
  subst h
  exact ⟨rfl, rfl, rfl, fun _ _ => Iff.rfl⟩

theorem SameEffects.of_lenient {a b : Run} (h : a.lenient = b.lenient) : SameEffects a b where
  toSameOutcome := .of_lenient (.of_eq h)
  log_eq := congrArg (·.log) h

theorem SameButOrder.of_lenient {a b : Run} (h : SameButOrder a.lenient b.lenient) :
    SameButOrder a b where
  toSameOutcome := h.toSameOutcome.of_lenient
  log_perm hfailure := by
    have hne : Failure.audit .cancelled ≠ .findings := by simp
    exact h.log_perm (mt (Run.lenient_failure_iff hne).mp hfailure)

/-! ### What a call sees -/

namespace SameButFindings

variable {a b : Invocation} {plan : Plan}

theorem select_eq (h : SameButFindings a b) (hplan : a.plan = .ok plan) :
    select a.environment a.root a.options plan = select b.environment b.root b.options plan := by
  rw [a.select_eq, b.select_eq, h.sources_eq plan hplan, h.root_eq, h.diff_eq, h.ref_eq, h.git_eq]

/-- The chosen files are found to be the same. -/
theorem examine_eq (h : SameButFindings a b) (hplan : a.plan = .ok plan) {selection : Selection}
    (hselect : (select a.environment a.root a.options plan).1 = .ok selection) :
    selection.files.map (fun file => (file, examine a.environment.system.read plan.path file)) =
      selection.files.map fun file =>
        (file, examine b.environment.system.read plan.path file) := by
  refine List.map_congr_left fun file hfile => ?_
  obtain ⟨files, hfiles, source, hsource, hpath⟩ := Invocation.mem_select hselect hfile
  have hcontent := h.read_eq plan files hplan hfiles source hsource
  rw [Invocation.read, Invocation.read, hpath] at hcontent
  rw [examine, examine, hcontent]

/-- What is settled decides, so that two such calls do the same with one plan if they have the same
workers. -/
theorem execute_eq (h : SameButFindings a b) (hplan : a.plan = .ok plan) :
    execute a.environment a.root a.options plan.lenient =
      execute { b.environment with machine := a.environment.machine } b.root b.options
        plan.lenient := by
  have hselect := h.select_eq hplan
  -- the choice of the files asks neither about findings nor about the machine
  have hlenient (environment : Environment) (root : String) (options : Options) :
      select environment root options plan.lenient = select environment root options plan := rfl
  have hmachine : select { b.environment with machine := a.environment.machine } b.root b.options
      plan = select b.environment b.root b.options plan := rfl
  rw [execute, execute, hlenient, hlenient, hmachine, ← hselect]
  cases hselection : select a.environment a.root a.options plan with
  | mk result calls =>
    cases result with
    | error failure => rfl
    | ok selection =>
      have hresults := h.examine_eq hplan (congrArg Prod.fst hselection)
      have haudit : a.environment.machine.audit a.environment.system plan.lenient.settings.workers
          plan.lenient.path selection.files =
          a.environment.machine.audit b.environment.system plan.lenient.settings.workers
            plan.lenient.path selection.files := by
        rw [Machine.audit, Machine.audit]
        exact congrArg (a.environment.machine.workers _ _ · _) hresults
      simp only [auditFiles, haudit, Command.report, render, Environment.write, Environment.print,
        Environment.present, counters, h.interactive_eq, h.terminal_eq, h.browse_eq, h.noColour_eq,
        h.colours_eq, h.guid_eq, h.refusedOutput_eq, ← h.metricsOut_eq, h.refused_eq]

/-- With findings set aside, both calls are refused alike or go on with one plan. -/
theorem lenient_cases (h : SameButFindings a b) :
    (∃ failure, a.run.lenient = .failed failure ∧ b.run.lenient = .failed failure) ∨
      ∃ plan, a.run.lenient = execute { b.environment with machine := a.environment.machine }
          b.root b.options plan ∧
        b.run.lenient = execute b.environment b.root b.options plan := by
  have hlenient := h.plan_eq
  rw [Invocation.run, Invocation.run, scan_lenient, scan_lenient]
  cases hplan : a.plan with
  | error failure =>
    rw [hplan] at hlenient
    rw [Invocation.plan] at hplan hlenient
    rw [hplan, ← hlenient]
    exact .inl ⟨failure, rfl, rfl⟩
  | ok plan =>
    have hexecute := h.execute_eq hplan
    rw [hplan] at hlenient
    rw [Invocation.plan] at hplan hlenient
    rw [hplan, ← hlenient]
    exact .inr ⟨plan.lenient, hexecute, rfl⟩

theorem sameEffects (h : SameButFindings a b)
    (hmachine : a.environment.machine = b.environment.machine) : SameEffects a.run b.run := by
  refine .of_lenient ?_
  obtain ⟨failure, ha, hb⟩ | ⟨plan, ha, hb⟩ := h.lenient_cases
  · rw [ha, hb]
  · rw [ha, hb, hmachine]

end SameButFindings

/-! ### Workers that take turns -/

section

variable (environment : Environment) (root : String) (options : Options) (plan : Plan)

/-- The events that were logged before come first in the log, and are no matter otherwise. -/
theorem exists_report_log (report : Report) (metrics : Metrics) :
    ∃ (run : Run) (after : List Log.Event), ∀ events,
      Command.report environment options plan events report metrics =
        { run with log := plan.logger.write (events ++ after) } := by
  simp only [Command.report]
  cases (render environment options plan.settings.format.shown report).failure with
  | some failure =>
    exact ⟨{ output := _, failure := some failure }, [], fun events => by rw [List.append_nil]⟩
  | none =>
    cases counters environment options metrics with
    | error cause =>
      exact ⟨{ output := _, failure := some (.counters cause) }, [],
        fun events => by rw [List.append_nil]⟩
    | ok metrics =>
      exact ⟨{ output := _, metrics := metrics, failure := _ }, [summaryEvent report],
        fun events => rfl⟩

/-- Of the counters only their text matters. -/
theorem report_congr {metrics metrics' : Metrics} (h : metrics.text = metrics'.text)
    (events : List Log.Event) (report : Report) :
    Command.report environment options plan events report metrics =
      Command.report environment options plan events report metrics' := by
  simp only [Command.report, counters, h]

variable {late : List SourceFile → Prop} {machine machine' : Machine}

theorem auditFiles_sameButOrder (h : machine.workers.TakeTurns late)
    (h' : machine'.workers.TakeTurns late) (events : List Log.Event) (selection : Selection)
    (calls : List (List String)) :
    SameButOrder
      { auditFiles { environment with machine := machine } options plan events selection with
        gitCalls := calls }
      { auditFiles { environment with machine := machine' } options plan events selection with
        gitCalls := calls } := by
  obtain ⟨hlate, hfinishes⟩ := Machine.audit_ends h environment.system plan.settings.workers
    plan.path selection.files
  obtain ⟨hlate', hfinishes'⟩ := Machine.audit_ends h' environment.system plan.settings.workers
    plan.path selection.files
  by_cases hfiles : late selection.files
  · simp only [auditFiles, hlate hfiles, hlate' hfiles]
    exact ⟨⟨rfl, rfl, rfl, fun _ _ => Iff.rfl⟩, fun hne => absurd rfl hne⟩
  · obtain ⟨hresult, hevents, htext⟩ := hfinishes hfiles
    obtain ⟨hresult', hevents', htext'⟩ := hfinishes' hfiles
    have hreport (machine : Machine) : Command.report { environment with machine := machine } =
        Command.report environment := rfl
    have hmetrics := report_congr environment options plan (htext.trans htext'.symm)
    simp only [auditFiles, hresult, hresult', hreport, hmetrics]
    obtain ⟨run, after, hrun⟩ := exists_report_log environment options plan _ _
    rw [hrun, hrun]
    refine ⟨⟨rfl, rfl, rfl, fun _ _ => Iff.rfl⟩, fun _ => ?_⟩
    refine ⟨plan.logger, events ++ selection.events, _, _, after, hevents.trans hevents'.symm, ?_,
      rfl, rfl⟩
    intro event hevent
    obtain ⟨⟨file, outcome⟩, -, hevent⟩ := List.mem_flatMap.mp (hevents.mem_iff.mp hevent)
    exact ⟨file, outcome, hevent⟩

theorem execute_sameButOrder (h : machine.workers.TakeTurns late)
    (h' : machine'.workers.TakeTurns late) :
    SameButOrder (execute { environment with machine := machine } root options plan)
      (execute { environment with machine := machine' } root options plan) := by
  have hselect (machine : Machine) : select { environment with machine := machine } root options
      plan = select environment root options plan := rfl
  simp only [execute, hselect]
  cases select environment root options plan with
  | mk result calls =>
    cases result with
    | error failure =>
      refine ⟨⟨rfl, rfl, rfl, fun _ _ => Iff.rfl⟩, fun _ => ?_⟩
      exact ⟨plan.logger, [startingEvent plan.path plan.settings], [], [], [], .refl _,
        List.forall_mem_nil _, rfl, rfl⟩
    | ok selection => exact auditFiles_sameButOrder environment options plan h h' _ selection calls

end

theorem SameButOrder.failed (failure : Failure) :
    SameButOrder (.failed failure) (.failed failure) :=
  ⟨.of_eq rfl, fun _ => ⟨default, [], [], [], [], .refl _, List.forall_mem_nil _, rfl, rfl⟩⟩

/-- Two such calls on machines whose workers take turns in ways of their own. -/
theorem SameButFindings.sameButOrder {a b : Invocation} (h : SameButFindings a b)
    {late : List SourceFile → Prop} (ha : a.environment.machine.workers.TakeTurns late)
    (hb : b.environment.machine.workers.TakeTurns late) : SameButOrder a.run b.run := by
  refine .of_lenient ?_
  obtain ⟨failure, hrun, hrun'⟩ | ⟨plan, hrun, hrun'⟩ := h.lenient_cases
  · rw [hrun, hrun']
    exact .failed failure
  · rw [hrun, hrun']
    exact execute_sameButOrder b.environment b.root b.options plan ha hb

/-! ### The flag -/

theorem resolve_setFindings (failing : Bool) (options : Options) (system : System)
    (root : String) :
    (options.resolve system root).map (·.setFindings failing)
      = { options with failOnFindings := some failing }.resolve system root := by
  have hfile : { options with failOnFindings := some failing }.fileSettings Settings.decode system
      root = options.fileSettings Settings.decode system root := rfl
  rw [Options.resolve, Options.resolve, Options.resolveBy, Options.resolveBy, hfile]
  cases options.fileSettings Settings.decode system root with
  | error cause => rfl
  | ok settings =>
    have hvalid : ({ options with failOnFindings := some failing }.overlay settings).valid
        = (options.overlay settings).valid := rfl
    simp only [hvalid]
    split <;> rfl

/-- The flag decides, whatever options and files say. -/
theorem plan_setFindings (failing : Bool) (environment : Environment) (root : String)
    (options : Options) :
    (plan environment root options).map (·.setFindings failing)
      = plan environment root { options with failOnFindings := some failing } := by
  rw [plan_eq, plan_eq]
  cases directory environment.system root with
  | error failure => rfl
  | ok path =>
    simp only [← resolve_setFindings]
    cases options.resolve environment.system path with
    | error cause => rfl
    | ok settings =>
      have hlogger : Log.Logger.ofSettings (settings.setFindings failing).logLevel
          (settings.setFindings failing).logFormat environment.logTerminal environment.time
            = Log.Logger.ofSettings settings.logLevel settings.logFormat environment.logTerminal
              environment.time := rfl
      simp only [Except.map, hlogger]
      cases Log.Logger.ofSettings settings.logLevel settings.logFormat environment.logTerminal
        environment.time <;> rfl

/-- The flag changes nothing else. -/
theorem sameButFindings_flag (environment : Environment) (root : String) (options : Options)
    (flag : Option Bool) :
    SameButFindings ⟨environment, root, options⟩
      ⟨environment, root, { options with failOnFindings := flag }⟩ where
  root_eq := rfl
  plan_eq := by
    have hlenient : Plan.lenient = Plan.setFindings false := rfl
    simp only [Invocation.plan, hlenient, plan_setFindings]
  sources_eq _ _ := rfl
  read_eq _ _ _ _ _ _ := rfl
  git_eq := rfl
  diff_eq := rfl
  ref_eq := rfl
  interactive_eq := rfl
  terminal_eq := rfl
  browse_eq := rfl
  noColour_eq := rfl
  colours_eq := rfl
  guid_eq := rfl
  refusedOutput_eq := rfl
  metricsOut_eq := rfl
  refused_eq := rfl

end Command

end InlineAudit
