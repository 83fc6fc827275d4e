import InlineAudit.Proofs.Audit.Pool
import Mathlib.Algebra.Order.BigOperators.Group.Finset

/-!
What an audit returns does not depend on its schedule. Every run can be brought to an end, after a
bounded number of steps. Along every run a task leaves in its slot what the outcome of its file asks
for, so that the slots of a finished audit without an error are those of the files read one after
the other; and there is an error exactly if a task asked too late. Nothing is done at all in a run
that begins with a cancellation.
-/

namespace InlineAudit

open Files

/-! ### Every run comes to an end -/

/-- A bound on the steps that are left to all tasks. -/
def Plan.remaining (plan : Plan) (s : Pool) : Nat :=
  ∑ i ∈ Finset.range plan.files.length, (s.phase i).stepsLeft

theorem Plan.remaining_lt (plan : Plan) {s t : Pool} {i : Nat} {p : Phase}
    (hi : i < plan.files.length) (hphase : t.phase = Function.update s.phase i p)
    (hp : p.stepsLeft < (s.phase i).stepsLeft) : plan.remaining t < plan.remaining s := by
  rw [remaining, hphase]
  refine Finset.sum_lt_sum (fun j _ => ?_) ⟨i, Finset.mem_range.mpr hi, ?_⟩
  · by_cases hij : j = i
    · rw [hij, Function.update_self]
      exact hp.le
    · rw [Function.update_of_ne hij]
  · rw [Function.update_self]
    exact hp

theorem Step.remaining_lt {plan : Plan} {actions : List Action} {s t : Pool} {a : Action}
    (h : Step plan s a t) (hs : Sound plan actions s) (ha : a ≠ .cancel) :
    plan.remaining t < plan.remaining s := by
  have hlt {i : Nat} {p : Phase} (hp : s.phase i = p) (hwaiting : p ≠ .waiting) :
      i < plan.files.length := hs.lt_length (by rw [hp]; exact hwaiting)
  cases h with
  | cancel => exact absurd rfl ha
  | start hnext hfree =>
    have hwaiting : s.phase s.next = .waiting := (hs.waiting_iff _).mpr le_rfl
    exact plan.remaining_lt hnext rfl (by rw [hwaiting]; decide)
  | allow hphase hopen =>
    exact plan.remaining_lt (hlt hphase (by simp)) rfl (by rw [hphase]; decide)
  | refuse hphase hcancelled =>
    exact plan.remaining_lt (hlt hphase (by simp)) rfl (by rw [hphase]; decide)
  | @read i file hphase hfile =>
    refine plan.remaining_lt (hlt hphase (by simp)) rfl ?_
    have heffects := (plan.outcome file).length_effects_le file
    rw [hphase, Phase.stepsLeft, Phase.stepsLeft]
    omega
  | act hphase hfile =>
    exact plan.remaining_lt (hlt hphase (by simp)) rfl (by rw [hphase]; simp [Phase.stepsLeft])
  | finish hphase =>
    exact plan.remaining_lt (hlt hphase (by simp)) rfl (by rw [hphase]; simp [Phase.stepsLeft])
  | fail hphase =>
    exact plan.remaining_lt (hlt hphase (by simp)) rfl (by rw [hphase]; decide)

/-- No run goes on for ever: but for further cancellations, a file takes seven steps at most. -/
theorem Run.bounded {plan : Plan} {metrics : Metrics} {actions : List Action} {s : Pool}
    (h : Run plan { metrics := metrics } actions s) :
    actions.countP (· ≠ .cancel) + plan.remaining s ≤ 7 * plan.files.length := by
  induction h with
  | nil => simp [Plan.remaining, Phase.stepsLeft, Nat.mul_comm]
  | @snoc actions middle t a hrun hstep ih =>
    rw [List.countP_append]
    by_cases ha : a = .cancel
    · subst ha
      cases hstep
      simpa [Plan.remaining] using ih
    · have hlt := hstep.remaining_lt hrun.sound ha
      have hone : [a].countP (· ≠ .cancel) = 1 := by simp [ha]
      omega

/-- Before the end, a worker can always go on. -/
theorem Sound.progress {plan : Plan} {actions : List Action} {s : Pool} (hs : Sound plan actions s)
    (hlimit : 0 < plan.limit) (hdone : ¬s.IsDone plan) : ∃ a t, a ≠ .cancel ∧ Step plan s a t := by
  by_cases hbusy : ∃ i < plan.files.length, (s.phase i).isRunning = true
  · obtain ⟨i, hi, hrunning⟩ := hbusy
    have hfile : plan.files[i]? = some (plan.files[i]) := List.getElem?_eq_getElem hi
    cases hphase : s.phase i with
    | waiting => simp [hphase, Phase.isRunning] at hrunning
    | ended => simp [hphase, Phase.isRunning] at hrunning
    | started =>
      cases hcancelled : s.isCancelled with
      | false => exact ⟨_, _, by simp, .allow hphase hcancelled⟩
      | true => exact ⟨_, _, by simp, .refuse hphase hcancelled⟩
    | admitted => exact ⟨_, _, by simp, .read hphase hfile⟩
    | acting todo =>
      cases todo with
      | nil => exact ⟨_, _, by simp, .finish hphase⟩
      | cons effect todo => exact ⟨_, _, by simp, .act hphase hfile⟩
    | refused => exact ⟨_, _, by simp, .fail hphase⟩
  · have hidle : ∀ i < plan.files.length, (s.phase i).isRunning = false := by
      intro i hi
      simpa using fun h => hbusy ⟨i, hi, h⟩
    have hnext : s.next < plan.files.length := by
      refine hs.next_le.lt_of_ne fun hnext => hdone ⟨hnext, fun i hi => ?_⟩
      have hidle := hidle i hi
      have hwaiting : s.phase i ≠ .waiting := by
        rw [Ne, hs.waiting_iff]
        omega
      cases hphase : s.phase i with
      | waiting => exact absurd hphase hwaiting
      | ended => rfl
      | _ => simp [hphase, Phase.isRunning] at hidle
    have hfree : plan.busy s = ∅ := by
      refine Finset.filter_eq_empty_iff.mpr fun i hi => ?_
      simp [hidle i (Finset.mem_range.mp hi)]
    exact ⟨_, _, by simp, .start hnext (by rw [hfree]; exact hlimit)⟩

theorem Run.append {plan : Plan} {s t u : Pool} {actions more : List Action}
    (h : Run plan s actions t) (hmore : Run plan t more u) : Run plan s (actions ++ more) u := by
  induction hmore with
  | nil => rwa [List.append_nil]
  | snoc _ hstep ih =>
    rw [← List.append_assoc]
    exact ih.snoc hstep

/-- Every run can be brought to an end, whatever has happened so far. -/
theorem Run.ends {plan : Plan} {metrics : Metrics} {actions : List Action} {s : Pool}
    (h : Run plan { metrics := metrics } actions s) (hlimit : 0 < plan.limit) :
    ∃ more t, .cancel ∉ more ∧ Run plan s more t ∧ t.IsDone plan := by
  induction hn : plan.remaining s using Nat.strong_induction_on generalizing actions s with
  | h n ih =>
    by_cases hdone : s.IsDone plan
    · exact ⟨[], s, by simp, .nil, hdone⟩
    · obtain ⟨a, middle, ha, hstep⟩ := h.sound.progress hlimit hdone
      have hlt := hstep.remaining_lt h.sound ha
      obtain ⟨more, t, hmore, hrun, ht⟩ := ih _ (hn ▸ hlt) (h.snoc hstep) rfl
      refine ⟨[a] ++ more, t, ?_, (Run.nil.snoc hstep).append hrun, ht⟩
      simpa [hmore] using fun h => ha h.symm

/-! ### The report -/

/-- The report on files that are read one after the other. -/
structure IsSequential (read : FileReader) (root : String) (files : List SourceFile)
    (report : Report) : Prop where
  root_eq : report.root = root
  diffRef_eq : report.diffRef = ""
  issues_eq : report.issues = files.flatMap fun file =>
    match read (Path.joinTo root file.path) with
    | .ok content => issuesOf file.path file.language (findingsOfBytes content)
    | .error _ => []
  skipped_eq : report.skipped =
    (files.filter fun file => !(read (Path.joinTo root file.path)).isOk).map (·.path)
  filesScanned_add : report.filesScanned + report.skipped.length = files.length

theorem examine_isUnreadable (read : FileReader) (root : String) (file : SourceFile) :
    (examine read root file).isUnreadable = !(read (Path.joinTo root file.path)).isOk := by
  rw [examine]
  cases read (Path.joinTo root file.path) <;> rfl

theorem examine_found (read : FileReader) (root : String) (file : SourceFile) :
    (examine read root file).found =
      match read (Path.joinTo root file.path) with
      | .ok content => issuesOf file.path file.language (findingsOfBytes content)
      | .error _ => [] := by
  rw [examine]
  cases read (Path.joinTo root file.path) <;> rfl

theorem Outcome.found_of_isUnreadable {outcome : Outcome} (h : outcome.isUnreadable = true) :
    outcome.found = [] := by
  cases outcome with
  | unreadable cause => rfl
  | issues found => cases h

/-- Files that could not be read add no issues. -/
theorem flatMap_readable (results : List (SourceFile × Outcome)) :
    (results.filter (!·.2.isUnreadable)).flatMap (·.2.found) = results.flatMap (·.2.found) := by
  induction results with
  | nil => rfl
  | cons result rest ih =>
    cases hresult : result.2.isUnreadable with
    | false => simp [hresult, ih]
    | true => simp [hresult, ih, Outcome.found_of_isUnreadable hresult]

theorem ofOutcomes_isSequential (read : FileReader) (root : String) (files : List SourceFile) :
    IsSequential read root files
      (Report.ofOutcomes root (files.map fun file => (file, examine read root file))) where
  root_eq := rfl
  diffRef_eq := rfl
  issues_eq := by
    simp only [Report.ofOutcomes, flatMap_readable, List.flatMap_map, ← examine_found]
  skipped_eq := by
    simp only [Report.ofOutcomes, List.filter_map, List.map_map, ← examine_isUnreadable]
    rfl
  filesScanned_add := by
    have hlength := List.length_eq_length_filter_add (α := SourceFile × Outcome)
      (l := files.map fun file => (file, examine read root file)) (·.2.isUnreadable)
    rw [List.length_map] at hlength
    simp only [Report.ofOutcomes, List.length_map]
    omega

/-- The report on the files of a plan, one after the other. -/
def Plan.report (plan : Plan) : Report :=
  Report.ofOutcomes plan.root (plan.files.map fun file => (file, plan.outcome file))

/-- A report with one more file. -/
def Report.add (report : Report) (file : SourceFile) (outcome : Outcome) : Report :=
  if outcome.isUnreadable then { report with skipped := report.skipped ++ [file.path] }
  else
    { report with
      filesScanned := report.filesScanned + 1
      issues := report.issues ++ outcome.found }

theorem Report.ofOutcomes_concat (root : String) (results : List (SourceFile × Outcome))
    (file : SourceFile) (outcome : Outcome) :
    ofOutcomes root (results ++ [(file, outcome)]) =
      (ofOutcomes root results).add file outcome := by
  cases houtcome : outcome.isUnreadable <;> simp [ofOutcomes, add, houtcome]

theorem Report.foldl_add (root : String) (results : List (SourceFile × Outcome)) :
    results.foldl (fun report result => report.add result.1 result.2) { root := root } =
      ofOutcomes root results := by
  induction results using List.reverseRecOn with
  | nil => rfl
  | append_singleton results result ih =>
    rw [List.foldl_append, ih, List.foldl_cons, List.foldl_nil, ofOutcomes_concat]

/-- Slots filled as the outcomes ask for make the report on the outcomes. -/
theorem Pool.collect_eq {plan : Plan} {s : Pool}
    (h : ∀ i file, plan.files[i]? = some file →
      s.slot i = ⟨(plan.outcome file).isUnreadable, (plan.outcome file).found⟩) :
    s.collect plan =
      Report.ofOutcomes plan.root (plan.files.map fun file => (file, plan.outcome file)) := by
  have hfiles : plan.files.map (fun file => (file, plan.outcome file)) =
      plan.files.zipIdx.map fun entry => (entry.1, plan.outcome entry.1) := by
    calc
      _ = (plan.files.zipIdx.map Prod.fst).map fun file => (file, plan.outcome file) := by
        rw [List.zipIdx_map_fst]
      _ = _ := List.map_map
  rw [← Report.foldl_add, hfiles, List.foldl_map, collect]
  refine List.foldl_ext _ _ _ fun report entry hentry => ?_
  have hslot := h entry.2 entry.1 (List.mem_zipIdx_iff_getElem?.mp hentry)
  simp only [hslot, Report.add]

/-- A finished audit without an error has filled all slots. -/
theorem Sound.result_eq {plan : Plan} {actions : List Action} {s : Pool}
    (hs : Sound plan actions s) (hdone : s.IsDone plan) (hlate : ¬CheckedLate actions) :
    s.result plan =
      .ok (Report.ofOutcomes plan.root (plan.files.map fun file => (file, plan.outcome file))) := by
  have herror : s.error = none := by
    have hnone := fun h => hlate (hs.late_iff.mp (Or.inl h))
    simpa using hnone
  rw [Pool.result, herror]
  refine congrArg Except.ok (Pool.collect_eq fun i file hfile => ?_)
  have hi : i < plan.files.length := (List.getElem?_eq_some_iff.mp hfile).1
  have hleaves := hs.leaves i file hfile
  rw [hdone.2 i hi, herror] at hleaves
  rcases hleaves with hsome | hslot
  · cases hsome
  · rw [hslot, Outcome.foldl_effects]

/-- A finished audit has an error exactly if a task asked too late. -/
theorem Sound.error_iff {plan : Plan} {actions : List Action} {s : Pool}
    (hs : Sound plan actions s) (hdone : s.IsDone plan) :
    s.result plan = .error .cancelled ↔ CheckedLate actions := by
  rw [← hs.late_iff]
  have hrefused : ¬∃ i, s.phase i = .refused := by
    rintro ⟨i, hi⟩
    have hlt := hs.lt_length (i := i) (by rw [hi]; simp)
    rw [hdone.2 i hlt] at hi
    cases hi
  cases herror : s.error with
  | none => simp [Pool.result, herror, hrefused]
  | some error => simp [Pool.result, herror]

/-! ### Cancelled beforehand -/

/-- A task that has done nothing about its file. -/
def Phase.IsIdle (error : Option AuditError) : Phase → Prop
  | admitted => False
  | acting _ => False
  | ended => error.isSome
  | _ => True

/-- Nothing has been done. -/
structure Idle (metrics : Metrics) (s : Pool) : Prop where
  cancelled : s.cancelled = true
  metrics_eq : s.metrics = metrics
  events_eq : s.events = []
  phase : ∀ i, (s.phase i).IsIdle s.error

theorem Phase.IsIdle.mono {error error' : Option AuditError} {p : Phase} (h : p.IsIdle error)
    (herror : error.isSome → error'.isSome) : p.IsIdle error' := by
  cases p with
  | ended => exact herror h
  | _ => exact h

theorem Idle.update {metrics : Metrics} {s : Pool} (hs : Idle metrics s)
    {error : Option AuditError} (herror : s.error.isSome → error.isSome) (i : Nat) {p : Phase}
    (hp : p.IsIdle error) : ∀ j, (Function.update s.phase i p j).IsIdle error := by
  intro j
  by_cases hij : j = i
  · rw [hij, Function.update_self]
    exact hp
  · rw [Function.update_of_ne hij]
    exact (hs.phase j).mono herror

theorem Step.idle {plan : Plan} {metrics : Metrics} {s t : Pool} {a : Action}
    (h : Step plan s a t) (hs : Idle metrics s) : Idle metrics t := by
  have hidle {i : Nat} {p : Phase} (hp : s.phase i = p) : p.IsIdle s.error := hp ▸ hs.phase i
  cases h with
  | cancel => exact { hs with cancelled := rfl }
  | start hnext hfree => exact { hs with phase := hs.update id _ trivial }
  | allow hphase hopen => simp [Pool.isCancelled, hs.cancelled] at hopen
  | refuse hphase hcancelled => exact { hs with phase := hs.update id _ trivial }
  | read hphase hfile => exact (hidle hphase).elim
  | act hphase hfile => exact (hidle hphase).elim
  | finish hphase => exact (hidle hphase).elim
  | fail hphase =>
    have herror : (s.error.or (some .cancelled)).isSome = true := by simp
    exact { hs with phase := hs.update (fun _ => herror) _ herror }

theorem Run.eq_of_nil {plan : Plan} {s t : Pool} (h : Run plan s [] t) : t = s := by
  generalize hactions : [] = actions at h
  cases h with
  | nil => rfl
  | snoc _ _ => simp at hactions

/-- Nothing is done in a run that begins with a cancellation. -/
theorem Run.idle {plan : Plan} {metrics : Metrics} {actions : List Action} {s : Pool}
    (h : Run plan { metrics := metrics } actions s) (hfirst : actions.head? = some .cancel) :
    Idle metrics s := by
  induction h with
  | nil => cases hfirst
  | @snoc actions middle t a hrun hstep ih =>
    cases actions with
    | nil =>
      obtain rfl : a = .cancel := by simpa using hfirst
      obtain rfl := hrun.eq_of_nil
      cases hstep
      exact ⟨rfl, rfl, rfl, fun _ => trivial⟩
    | cons first rest => exact hstep.idle (ih hfirst)

/-- A run that began with a cancellation ends with an error, if there was a file. -/
theorem Idle.result_eq {plan : Plan} {metrics : Metrics} {s : Pool} (hs : Idle metrics s)
    (hdone : s.IsDone plan) (hfiles : plan.files ≠ []) : s.result plan = .error .cancelled := by
  have herror := hs.phase 0
  rw [hdone.2 0 (List.length_pos_of_ne_nil hfiles)] at herror
  obtain ⟨error, herror⟩ := Option.isSome_iff_exists.mp herror
  rw [Pool.result, herror]

/-! ### The audit -/

/-- An audit returns the same whatever its schedule. Every run comes to an end. It ends with an
error exactly if a task asked too late whether the audit is cancelled; otherwise with the report on
the files read one after the other, which is also that of `auditBy`. A run that begins with a
cancellation counts nothing, and fails if there is a file. -/
theorem audit_independent_of_schedule {plan : Plan} (workers : Int) {processors : Nat}
    (hprocessors : 0 < processors) (hlimit : plan.limit = taskLimit workers processors)
    {metrics : Metrics} {actions : List Action} {s : Pool}
    (h : Run plan { metrics := metrics } actions s) :
    ((plan.busy s).card ≤ plan.limit ∧
      actions.countP (· ≠ .cancel) ≤ 7 * plan.files.length ∧
      ∃ more t, .cancel ∉ more ∧ Run plan s more t ∧ t.IsDone plan) ∧
    (s.IsDone plan →
      ((∃ error, s.result plan = .error error) ↔ CheckedLate actions) ∧
      (¬CheckedLate actions → ∃ report, s.result plan = .ok report ∧
        IsSequential plan.read plan.root plan.files report ∧
        (auditBy plan.read false metrics plan.root plan.files).map (·.report) = .ok report)) ∧
    (actions.head? = some .cancel →
      s.metrics = metrics ∧ s.events = [] ∧
      (plan.files ≠ [] → s.IsDone plan → s.result plan = .error .cancelled)) := by
  have hpos : 0 < plan.limit := hlimit ▸ taskLimit_pos workers hprocessors
  refine ⟨⟨h.sound.busy_le, (Nat.le_add_right _ _).trans h.bounded, h.ends hpos⟩, ?_, ?_⟩
  · intro hdone
    constructor
    · rw [← h.sound.error_iff hdone]
      constructor
      · rintro ⟨⟨⟩, herror⟩
        exact herror
      · exact fun herror => ⟨_, herror⟩
    · intro hlate
      exact ⟨_, h.sound.result_eq hdone hlate,
        ofOutcomes_isSequential plan.read plan.root plan.files, rfl⟩
  · intro hfirst
    have hidle := h.idle hfirst
    exact ⟨hidle.metrics_eq, hidle.events_eq, fun hfiles hdone => hidle.result_eq hdone hfiles⟩

/-- One file, which cannot be read. -/
def missingFile : Plan where
  read path := .error ⟨"open", path, .noEntry⟩
  root := "/project"
  files := [{ path := "a.py", size := 0, ext := ".py", language := "py" }]
  limit := taskLimit 0 1

/-- A run that is cancelled behind the check of its only task. -/
theorem missingFile_run : ∃ s, s.IsDone missingFile ∧
    Run missingFile { metrics := {} }
      [.start, .check 0, .cancel, .read 0, .act 0, .act 0, .act 0, .finish 0] s := by
  have hstart : Run missingFile { metrics := {} } [.start] _ :=
    Run.nil.snoc (.start (by decide) (by decide))
  have hcheck := hstart.snoc (.allow (i := 0) rfl rfl)
  have hread := (hcheck.snoc .cancel).snoc (.read (i := 0) rfl rfl)
  have hlog := hread.snoc (.act (i := 0) rfl rfl)
  have hcount := hlog.snoc (.act (i := 0) rfl rfl)
  have hmark := hcount.snoc (.act (i := 0) rfl rfl)
  refine ⟨_, ⟨rfl, fun i hi => ?_⟩, hmark.snoc (.finish (i := 0) rfl)⟩
  obtain rfl : i = 0 := Nat.lt_one_iff.mp hi
  rfl

/-- The late cancellation takes nothing from the report. -/
theorem missingFile_reported : ∃ s report,
    Run missingFile { metrics := {} }
      [.start, .check 0, .cancel, .read 0, .act 0, .act 0, .act 0, .finish 0] s ∧
    s.result missingFile = .ok report ∧ report.skipped = ["a.py"] := by
  obtain ⟨s, hdone, hrun⟩ := missingFile_run
  have hlate : ¬CheckedLate
      [.start, .check 0, .cancel, .read 0, .act 0, .act 0, .act 0, .finish 0] := by
    rintro ⟨i, hi⟩
    simp [List.cons_sublist_cons'] at hi
  obtain ⟨report, hresult, hreport, -⟩ :=
    ((audit_independent_of_schedule 0 Nat.one_pos rfl hrun).2.1 hdone).2 hlate
  exact ⟨s, report, hrun, hresult, hreport.skipped_eq⟩

end InlineAudit
