import InlineAudit.Command.Scan
import Mathlib.Data.Option.Basic

/-!
The stages of a scan. Each of them can fail, and each failure tells which stage it is of: what is
settled beforehand, the choice of the files, their audit, the report, the counters, and in the end
the findings. The main statement lists the ways a scan can end by the first stage that fails
(`scan_ends`); what a scan leaves behind is read off that list.
-/

namespace InlineAudit.Command

open Files

/-! ### Failures by stage -/

inductive Stage where
  | words
  | plan
  | selection
  | audit
  | report
  | counters
  | findings
  deriving DecidableEq

/-- The stage that a failure is of. -/
def Failure.stage : Failure → Stage
  | .flags _ => .words
  | .tooMany _ _ => .words
  | .tooFew _ _ => .words
  | .unknownCommand _ _ => .words
  | .path _ => .plan
  | .notDirectory _ => .plan
  | .settings _ => .plan
  | .logger _ => .plan
  | .walk _ _ => .selection
  | .diff _ _ => .selection
  | .audit _ => .audit
  | .noTerminal => .report
  | .browser _ => .report
  | .output _ => .report
  | .noTree => .report
  | .counters _ => .counters
  | .findings => .findings

section

variable {environment : Environment} {root : String} {options : Options}

theorem directory_cases (system : System) (root : String) :
    directory system root = .ok (Path.absolute system.cwd root) ∨
      ∃ failure, directory system root = .error failure ∧ failure.stage = .plan := by
  rw [directory]
  split
  · exact .inr ⟨_, rfl, rfl⟩
  · split
    · exact .inl rfl
    · exact .inr ⟨_, rfl, rfl⟩

/-- A scan is settled step by step, and refused at the first step that fails. -/
theorem plan_eq (environment : Environment) (root : String) (options : Options) :
    plan environment root options =
      match directory environment.system root with
      | .error failure => .error failure
      | .ok path =>
        match options.resolve environment.system path with
        | .error cause => .error (.settings cause)
        | .ok settings =>
          match Log.Logger.ofSettings settings.logLevel settings.logFormat environment.logTerminal
              environment.time with
          | .error cause => .error (.logger cause)
          | .ok logger => .ok ⟨path, settings, logger⟩ := by
  simp only [plan, bind, Except.bind, pure, Except.pure]
  cases directory environment.system root with
  | error failure => rfl
  | ok path =>
    dsimp only
    cases options.resolve environment.system path with
    | error cause => simp only [Except.mapError]
    | ok settings =>
      simp only [Except.mapError]
      cases Log.Logger.ofSettings settings.logLevel settings.logFormat environment.logTerminal
        environment.time <;> simp only

/-- What comes of settling a scan. -/
inductive Settled (environment : Environment) (root : String) (options : Options) :
    Except Failure Plan → Prop
  | refused {failure : Failure} (h : failure.stage = .plan) :
      Settled environment root options (.error failure)
  | settled {plan : Plan} (hpath : plan.path = Path.absolute environment.system.cwd root)
      (hsettings : options.resolve environment.system plan.path = .ok plan.settings) :
      Settled environment root options (.ok plan)

theorem plan_settled (environment : Environment) (root : String) (options : Options) :
    Settled environment root options (plan environment root options) := by
  rw [plan_eq]
  obtain hpath | ⟨failure, hfailure, hstage⟩ := directory_cases environment.system root
  · rw [hpath]
    dsimp only
    cases hresolve : options.resolve environment.system
        (Path.absolute environment.system.cwd root) with
    | error cause => exact .refused rfl
    | ok settings =>
      dsimp only
      cases Log.Logger.ofSettings settings.logLevel settings.logFormat environment.logTerminal
          environment.time with
      | error cause => exact .refused rfl
      | ok logger => exact .settled rfl hresolve
  · rw [hfailure]
    exact .refused hstage

theorem plan_eq_ok {plan : Plan} (h : Command.plan environment root options = .ok plan) :
    plan.path = Path.absolute environment.system.cwd root ∧
      options.resolve environment.system plan.path = .ok plan.settings := by
  cases h ▸ plan_settled environment root options with
  | settled hpath hsettings => exact ⟨hpath, hsettings⟩

theorem plan_eq_error {failure : Failure} (h : plan environment root options = .error failure) :
    failure.stage = .plan := by
  cases h ▸ plan_settled environment root options with
  | refused hstage => exact hstage

theorem select_eq_error {plan : Plan} {failure : Failure}
    (h : (select environment root options plan).1 = .error failure) :
    failure.stage = .selection := by
  rw [select] at h
  dsimp only at h
  split at h
  · cases h
    rfl
  · split at h
    · split at h
      · cases h
        rfl
      · cases h
    · cases h

/-- Writing a report fails for want of a terminal or of a tree, or with the output. -/
theorem render_failure {format : String} {report : Report} {failure : Failure}
    (h : (render environment options format report).failure = some failure) :
    failure.stage = .report ∧ (failure = .noTree →
      report.text? (finishOf options.noColour environment.colours) = none) := by
  have hwrite (text : String) (h : (environment.write text).failure = some failure) :
      ∃ cause, failure = .output cause := by
    rw [Environment.write] at h
    split at h
    · cases h
    · exact ⟨_, (Option.some.inj h).symm⟩
  rw [render] at h
  split at h
  · split at h
    · obtain ⟨cause, -, rfl⟩ := Option.map_eq_some_iff.mp h
      exact ⟨rfl, fun h => by cases h⟩
    · cases h
      exact ⟨rfl, fun h => by cases h⟩
  · split at h
    · obtain ⟨cause, rfl⟩ := hwrite _ h
      exact ⟨rfl, fun h => by cases h⟩
    · split at h
      · obtain ⟨cause, rfl⟩ := hwrite _ h
        exact ⟨rfl, fun h => by cases h⟩
      · split at h
        · cases h
        · rename_i htext
          cases h
          exact ⟨rfl, fun _ => htext⟩

theorem counters_eq_error {metrics : Metrics} {cause : String}
    (h : counters environment options metrics = .error cause) :
    environment.refused options.metricsOut = some cause := by
  rw [counters] at h
  split at h
  · cases h
  · split at h
    · rename_i hrefused
      exact Except.error.inj h ▸ hrefused
    · cases h

/-- Behind the audit only what is written can fail, and the findings. -/
theorem report_failure {plan : Plan} {events : List Log.Event} {report : Report}
    {metrics : Metrics} {failure : Failure}
    (h : (Command.report environment options plan events report metrics).failure = some failure) :
    failure.stage = .report ∨ failure.stage = .counters ∨ failure.stage = .findings := by
  rw [Command.report] at h
  split at h
  · rename_i failure' hrender
    exact .inl (Option.some.inj h ▸ (render_failure hrender).1)
  · split at h
    · cases h
      exact .inr (.inl rfl)
    · split at h
      · cases h
        exact .inr (.inr rfl)
      · cases h

end

/-! ### The ways a scan ends -/

/-- The audit of chosen files under a plan. -/
def Plan.audit (plan : Plan) (environment : Environment) (selection : Selection) : AuditEnd :=
  environment.machine.audit environment.system plan.settings.workers plan.path selection.files

/-- What is found, with the reference that the files were compared with. -/
def Selection.report (selection : Selection) (found : Report) : Report :=
  { found with diffRef := selection.diffRef }

/-- The stages up to the audit, with what they give. -/
structure Audits (environment : Environment) (root : String) (options : Options) (plan : Plan)
    (selection : Selection) (found : Report) : Prop where
  planned : Command.plan environment root options = .ok plan
  resolved : options.resolve environment.system plan.path = .ok plan.settings
  selected : (select environment root options plan).1 = .ok selection
  audited : (plan.audit environment selection).result = .ok found

/-- All stages of a scan with what each of them gives. -/
structure Completes (environment : Environment) (root : String) (options : Options) (plan : Plan)
    (selection : Selection) (found : Report) (output : String)
    (metrics : Option (String × String)) : Prop
    extends Audits environment root options plan selection found where
  rendered : render environment options plan.settings.format.shown (selection.report found) =
    { output := output }
  counted : counters environment options (plan.audit environment selection).metrics = .ok metrics

/-- How a scan ends: which stage is the first to fail, if any, and what is there by then. -/
inductive Ends (environment : Environment) (root : String) (options : Options) : Run → Prop
  | unplanned {failure : Failure} (h : plan environment root options = .error failure) :
      Ends environment root options (.failed failure)
  | unselected {plan : Plan} {failure : Failure} {log : String} {calls : List (List String)}
      (hselect : (select environment root options plan).1 = .error failure) :
      Ends environment root options { log := log, gitCalls := calls, failure := some failure }
  | unaudited {cause : AuditError} {log : String} {calls : List (List String)} :
      Ends environment root options
        { log := log, gitCalls := calls, failure := some (.audit cause) }
  | unrendered {plan : Plan} {selection : Selection} {found : Report} {failure : Failure}
      {log : String} {calls : List (List String)}
      (haudits : Audits environment root options plan selection found)
      (hrender : (render environment options plan.settings.format.shown
        (selection.report found)).failure = some failure) :
      Ends environment root options
        { output := (render environment options plan.settings.format.shown
            (selection.report found)).output
          log := log
          gitCalls := calls
          failure := some failure }
  | uncounted {output cause log : String} {calls : List (List String)}
      (hrefused : environment.refused options.metricsOut = some cause) :
      Ends environment root options
        { output := output, log := log, gitCalls := calls, failure := some (.counters cause) }
  | completed {plan : Plan} {selection : Selection} {found : Report} {output log : String}
      {metrics : Option (String × String)} {calls : List (List String)}
      (h : Completes environment root options plan selection found output metrics) :
      Ends environment root options
        { output := output
          log := log
          metrics := metrics
          gitCalls := calls
          failure :=
            if plan.settings.failOnFindings && !found.issues.isEmpty then some .findings
            else none }

section

variable {environment : Environment} {root : String} {options : Options}

theorem Written.eq_of_failure {written : Written} (h : written.failure = none) :
    written = { output := written.output } := by
  cases written
  exact congrArg (Written.mk _) h

theorem auditFiles_ends {plan : Plan} (hplan : Command.plan environment root options = .ok plan)
    {selection : Selection}
    (hselect : (select environment root options plan).1 = .ok selection)
    (events : List Log.Event) (calls : List (List String)) :
    Ends environment root options
      { auditFiles environment options plan events selection with gitCalls := calls } := by
  rw [auditFiles]
  dsimp only
  split
  · exact .unaudited
  · rename_i found hfound
    have haudits : Audits environment root options plan selection found :=
      ⟨hplan, (plan_eq_ok hplan).2, hselect, hfound⟩
    rw [report]
    dsimp only
    split
    · rename_i failure hrender
      exact .unrendered haudits hrender
    · rename_i hrender
      split
      · rename_i cause hcounters
        exact .uncounted (counters_eq_error hcounters)
      · rename_i metrics hcounters
        exact .completed ⟨haudits, Written.eq_of_failure hrender, hcounters⟩

theorem scan_ends (environment : Environment) (root : String) (options : Options) :
    Ends environment root options (scan environment root options) := by
  rw [scan]
  split
  · rename_i failure hplan
    exact .unplanned hplan
  · rename_i plan hplan
    rw [execute]
    dsimp only
    split
    · rename_i failure calls hselect
      exact .unselected (congrArg Prod.fst hselect)
    · rename_i selection calls hselect
      exact auditFiles_ends hplan (congrArg Prod.fst hselect) _ _

/-- A scan whose stages all succeed leaves what they give. -/
theorem Completes.leaves {plan : Plan} {selection : Selection} {found : Report} {output : String}
    {metrics : Option (String × String)}
    (h : Completes environment root options plan selection found output metrics) :
    (scan environment root options).output = output ∧
      (scan environment root options).metrics = metrics ∧
      (scan environment root options).failure =
        if plan.settings.failOnFindings && !found.issues.isEmpty then some .findings else none := by
  have hselect : select environment root options plan =
      (.ok selection, (select environment root options plan).2) := Prod.ext h.selected rfl
  have haudit := h.audited
  have hrender := h.rendered
  have hcounters := h.counted
  rw [Plan.audit] at haudit hcounters
  rw [Selection.report] at hrender
  rw [scan, h.planned]
  dsimp only
  rw [execute, hselect]
  simp only [auditFiles, haudit, report, hrender, hcounters, and_self]

/-- What the failure of a scan tells about its stages. -/
inductive FailsAt (environment : Environment) (root : String) (options : Options) (run : Run) :
    Failure → Prop
  | early {failure : Failure}
      (hstage : failure.stage = .plan ∨ failure.stage = .selection ∨ failure.stage = .audit) :
      FailsAt environment root options run failure
  | report {plan : Plan} {selection : Selection} {found : Report} {failure : Failure}
      (haudits : Audits environment root options plan selection found)
      (hrender : (render environment options plan.settings.format.shown
        (selection.report found)).failure = some failure) :
      FailsAt environment root options run failure
  | counters {cause : String} (hmetrics : run.metrics = none)
      (hrefused : environment.refused options.metricsOut = some cause) :
      FailsAt environment root options run (.counters cause)
  | findings {plan : Plan} {selection : Selection} {found : Report} {output : String}
      {metrics : Option (String × String)}
      (h : Completes environment root options plan selection found output metrics) :
      FailsAt environment root options run .findings

theorem Ends.failsAt {run : Run} (h : Ends environment root options run) {failure : Failure}
    (hfailure : run.failure = some failure) :
    FailsAt environment root options run failure := by
  cases h with
  | unplanned hplan =>
    obtain rfl := Option.some.inj hfailure
    exact .early (.inl (plan_eq_error hplan))
  | unselected hselect =>
    obtain rfl := Option.some.inj hfailure
    exact .early (.inr (.inl (select_eq_error hselect)))
  | unaudited =>
    obtain rfl := Option.some.inj hfailure
    exact .early (.inr (.inr rfl))
  | unrendered haudits hrender =>
    obtain rfl := Option.some.inj hfailure
    exact .report haudits hrender
  | uncounted hrefused =>
    obtain rfl := Option.some.inj hfailure
    exact .counters rfl hrefused
  | completed h =>
    dsimp only at hfailure
    split at hfailure
    · obtain rfl := Option.some.inj hfailure
      exact .findings h
    · cases hfailure

/-- Findings are no stage that writes: a scan that fails for them has gone through all others. -/
theorem Ends.completes_of_findings {run : Run} (h : Ends environment root options run)
    (hfailure : run.failure = some .findings) : ∃ plan selection found output metrics,
      Completes environment root options plan selection found output metrics := by
  cases h.failsAt hfailure with
  | early hstage => simp [Failure.stage] at hstage
  | report _ hrender => cases (render_failure hrender).1
  | findings h => exact ⟨_, _, _, _, _, h⟩

/-- So has one that does not fail. -/
theorem Ends.completes_of_success {run : Run} (h : Ends environment root options run)
    (hfailure : run.failure = none) : ∃ plan selection found output metrics,
      Completes environment root options plan selection found output metrics := by
  cases h with
  | completed h => exact ⟨_, _, _, _, _, h⟩
  | _ => cases hfailure

end

end InlineAudit.Command
