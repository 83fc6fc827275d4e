import InlineAudit.Proofs.Audit.Conservation
import InlineAudit.Proofs.Audit.Logging
import Mathlib.Data.Prod.Lex
import Mathlib.Data.String.Basic

/-!
Workers that take turns. What workers of an audit leave behind is what some run of its tasks leaves,
with the caller cancelling it in time or not (`Workers.TakeTurns`); a single worker that takes the
files in their order is one case of it. If nobody is cancelled, all such workers return the report
on the files read one after the other, with log and counters that differ from those of a single
worker only in an order; of this the counters, once written, show nothing.
-/

namespace InlineAudit

open Files

/-! ### Counters as text -/

theorem mergeSort_eq_of_perm {α : Type} {before : α → α → Bool}
    (htrans : ∀ a b c, before a b = true → before b c = true → before a c = true)
    (htotal : ∀ a b, (before a b || before b a) = true)
    (hantisymm : ∀ a b, before a b = true → before b a = true → a = b) {l l' : List α}
    (h : l.Perm l') : l.mergeSort before = l'.mergeSort before := by
  have hperm : (l.mergeSort before).Perm (l'.mergeSort before) :=
    (List.mergeSort_perm l before).trans (h.trans (List.mergeSort_perm l' before).symm)
  exact hperm.eq_of_pairwise (fun a b _ _ => hantisymm a b)
    (List.pairwise_mergeSort htrans htotal l) (List.pairwise_mergeSort htrans htotal l')

theorem Metrics.labelOrder_iff {a b : String × String} :
    labelOrder a b = true ↔ toLex a ≤ toLex b := by
  simp [labelOrder, Prod.Lex.le_iff]

/-- The counters do not show in which order things were counted. -/
theorem Metrics.text_eq_of_perm {metrics metrics' : Metrics}
    (hfiles : metrics.files.Perm metrics'.files)
    (hdirectives : metrics.directives.Perm metrics'.directives)
    (hreadErrors : metrics.readErrors = metrics'.readErrors) : metrics.text = metrics'.text := by
  have hlanguages : (metrics.files.eraseDups.mergeSort fun a b => a ≤ b) =
      metrics'.files.eraseDups.mergeSort fun a b => a ≤ b := by
    refine mergeSort_eq_of_perm ?_ ?_ ?_ (eraseDups_perm hfiles)
    · simpa using fun a b c : String => le_trans (a := a)
    · simpa using fun a b : String => le_total a b
    · simpa using fun a b : String => le_antisymm
  have hlabels : metrics.directives.eraseDups.mergeSort labelOrder =
      metrics'.directives.eraseDups.mergeSort labelOrder := by
    refine mergeSort_eq_of_perm ?_ ?_ ?_ (eraseDups_perm hdirectives)
    · intro a b c
      simpa only [labelOrder_iff] using le_trans
    · intro a b
      simpa only [Bool.or_eq_true, labelOrder_iff] using le_total (toLex a) (toLex b)
    · intro a b
      simpa only [labelOrder_iff] using fun hab hba => toLex.injective (le_antisymm hab hba)
  simp only [text, fileSamples, directiveSamples, hlanguages, hlabels, hreadErrors,
    hfiles.count_eq, hdirectives.count_eq]

/-- All that is counted for some files of a plan. -/
theorem Plan.countAll_eq (plan : Plan) (files : List SourceFile) (metrics : Metrics) :
    plan.countAll files metrics =
      { files := metrics.files ++
          (files.filter fun file => !(plan.outcome file).isUnreadable).map (·.language)
        directives := metrics.directives ++ files.flatMap fun file =>
          (plan.outcome file).found.map fun issue => (issue.category.name, file.language)
        readErrors := metrics.readErrors +
          files.countP fun file => (plan.outcome file).isUnreadable } := by
  induction files generalizing metrics with
  | nil => simp [countAll]
  | cons file rest ih =>
    rw [countAll, List.foldl_cons, ← countAll, ih]
    cases houtcome : plan.outcome file with
    | unreadable cause =>
      simp [Metrics.count, Metrics.countReadError, Outcome.isUnreadable, Outcome.found, houtcome,
        Nat.add_right_comm, ← Nat.add_assoc]
    | issues found =>
      simp [Metrics.count, Metrics.countFile, Outcome.isUnreadable, Outcome.found, houtcome]

theorem Plan.text_countAll_of_perm (plan : Plan) (metrics : Metrics)
    {files files' : List SourceFile} (h : files.Perm files') :
    (plan.countAll files metrics).text = (plan.countAll files' metrics).text := by
  rw [countAll_eq, countAll_eq]
  refine Metrics.text_eq_of_perm ?_ ?_ ?_
  · exact ((h.filter _).map _).append_left _
  · exact (h.flatMap_right _).append_left _
  · exact congrArg (metrics.readErrors + ·) (h.countP_eq _)

/-! ### One file after the other -/

/-- Between two tasks of a single worker: those before a place have ended, and nobody else was
started. -/
structure Between (k : Nat) (s : Pool) : Prop where
  next_eq : s.next = k
  ended : ∀ i < k, s.phase i = .ended
  waiting : ∀ i, k ≤ i → s.phase i = .waiting
  not_cancelled : s.cancelled = false
  no_error : s.error = none

/-- A task does what is before it, while nobody else does anything. -/
theorem exists_run_acting {plan : Plan} {i : Nat} {file : SourceFile}
    (hfile : plan.files[i]? = some file) {todo : List Effect} {s : Pool}
    (hphase : s.phase i = .acting todo) :
    ∃ actions t, .cancel ∉ actions ∧ Run plan s actions t ∧
      t.phase = Function.update s.phase i (.acting []) ∧
      (t.next, t.cancelled, t.error) = (s.next, s.cancelled, s.error) ∧
      t.events = s.events ++ loggedBy todo ∧
      t.metrics = todo.foldl (fun metrics effect => effect.onMetrics file metrics) s.metrics := by
  induction todo generalizing s with
  | nil =>
    refine ⟨[], s, by simp, .nil, ?_, rfl, (List.append_nil _).symm, rfl⟩
    rw [← hphase, Function.update_eq_self]
  | cons effect todo ih =>
    have hact : Step plan s (.act i) ((s.perform i file effect).moveTo i (.acting todo)) :=
      .act hphase hfile
    obtain ⟨actions, t, hcancel, hrun, hphase', hrest, hevents, hmetrics⟩ :=
      ih (s := (s.perform i file effect).moveTo i (.acting todo)) (Function.update_self ..)
    refine ⟨[.act i] ++ actions, t, by simp [hcancel], (Run.nil.snoc hact).append hrun, ?_, hrest,
      ?_, hmetrics⟩
    · rw [hphase']
      exact Function.update_idem ..
    · rw [hevents]
      exact List.append_assoc ..

theorem foldl_onMetrics_effects (file : SourceFile) (outcome : Outcome) (metrics : Metrics) :
    (outcome.effects file).foldl (fun metrics effect => effect.onMetrics file metrics) metrics =
      metrics.count file outcome := by
  have hlogs (events : List Log.Event) (metrics : Metrics) :
      (events.map Effect.log).foldl (fun metrics effect => effect.onMetrics file metrics) metrics =
        metrics := by
    induction events with
    | nil => rfl
    | cons event rest ih => exact ih
  cases outcome with
  | unreadable cause =>
    rw [Outcome.effects, List.foldl_append, hlogs]
    rfl
  | issues found =>
    rw [Outcome.effects, List.foldl_append, hlogs]
    rfl

section

variable {plan : Plan} {k : Nat} {s : Pool} {file : SourceFile}

/-- The task of the next file is started, and comes to read it. -/
theorem Between.exists_run_reading (hs : Between k s) (hlimit : 0 < plan.limit)
    (hfile : plan.files[k]? = some file) :
    ∃ t, Run plan s [.start, .check k, .read k] t ∧
      t.phase = Function.update s.phase k (.acting ((plan.outcome file).effects file)) ∧
      (t.next, t.cancelled, t.error) = (k + 1, s.cancelled, s.error) ∧
      t.events = s.events ∧ t.metrics = s.metrics := by
  have hk : k < plan.files.length := (List.getElem?_eq_some_iff.mp hfile).1
  have hfree : plan.busy s = ∅ := by
    refine Finset.filter_eq_empty_iff.mpr fun i _ => ?_
    rcases Nat.lt_or_ge i k with hi | hi
    · simp [hs.ended i hi, Phase.isRunning]
    · simp [hs.waiting i hi, Phase.isRunning]
  have hstart : Step plan s .start { s.moveTo s.next .started with next := s.next + 1 } :=
    .start (by rw [hs.next_eq]; exact hk) (by rw [hfree]; exact hlimit)
  rw [hs.next_eq] at hstart
  have hopen : ({ s.moveTo k .started with next := k + 1 } : Pool).isCancelled = false := by
    show (s.cancelled || s.error.isSome) = false
    rw [hs.not_cancelled, hs.no_error]
    rfl
  have hcheck := (Run.nil.snoc hstart).snoc (.allow (i := k) (Function.update_self ..) hopen)
  refine ⟨_, hcheck.snoc (.read (i := k) (Function.update_self ..) hfile), ?_, rfl, rfl, rfl⟩
  simp [Pool.moveTo, Function.update_idem]

/-- It ends before any other does anything. -/
theorem Between.exists_run (hs : Between k s) (hlimit : 0 < plan.limit)
    (hfile : plan.files[k]? = some file) :
    ∃ actions t, .cancel ∉ actions ∧ Run plan s actions t ∧ Between (k + 1) t ∧
      t.events = s.events ++ (plan.outcome file).events file ∧
      t.metrics = s.metrics.count file (plan.outcome file) := by
  obtain ⟨u, hread, hphase, hrest, hevents, hmetrics⟩ := hs.exists_run_reading hlimit hfile
  obtain ⟨actions, t, hcancel, hacts, hphase', hrest', hevents', hmetrics'⟩ :=
    exists_run_acting hfile (hphase ▸ Function.update_self ..)
  rw [hrest, hs.not_cancelled, hs.no_error] at hrest'
  obtain ⟨hnext, hcancelled, herror⟩ : t.next = k + 1 ∧ t.cancelled = false ∧ t.error = none := by
    simpa using hrest'
  have hend : Step plan t (.finish k) (t.moveTo k .ended) :=
    .finish (by rw [hphase', Function.update_self])
  have hphases : (t.moveTo k .ended).phase = Function.update s.phase k .ended := by
    simp [Pool.moveTo, hphase', hphase, Function.update_idem]
  refine ⟨_, _, by simp [hcancel], (hread.append hacts).snoc hend, ?_, ?_, ?_⟩
  · refine ⟨hnext, fun i hi => ?_, fun i hi => ?_, hcancelled, herror⟩
    · rw [hphases]
      rcases Nat.lt_succ_iff_lt_or_eq.mp hi with hi | rfl
      · rw [Function.update_of_ne hi.ne, hs.ended i hi]
      · rw [Function.update_self]
    · rw [hphases, Function.update_of_ne (by omega), hs.waiting i (by omega)]
  · rw [hevents, loggedBy_effects] at hevents'
    exact hevents'
  · rw [hmetrics, foldl_onMetrics_effects] at hmetrics'
    exact hmetrics'

end

/-- So a single worker can take the files one after the other, from the first to the last. -/
theorem exists_run_inOrder (plan : Plan) (hlimit : 0 < plan.limit) (metrics : Metrics) :
    ∃ actions t, .cancel ∉ actions ∧ Run plan { metrics := metrics } actions t ∧
      t.IsDone plan ∧ t.events = plan.events ∧ t.metrics = plan.countAll plan.files metrics := by
  have hfront : ∀ k ≤ plan.files.length, ∃ actions t, .cancel ∉ actions ∧
      Run plan { metrics := metrics } actions t ∧ Between k t ∧
      t.events = (plan.files.take k).flatMap (fun file => (plan.outcome file).events file) ∧
      t.metrics = plan.countAll (plan.files.take k) metrics := by
    intro k hk
    induction k with
    | zero =>
      refine ⟨[], _, by simp, .nil, ⟨rfl, fun i hi => absurd hi (Nat.not_lt_zero i),
        fun _ _ => rfl, rfl, rfl⟩, rfl, rfl⟩
    | succ k ih =>
      obtain ⟨actions, s, hcancel, hrun, hs, hevents, hmetrics⟩ := ih (by omega)
      have hfile : plan.files[k]? = some (plan.files[k]) := List.getElem?_eq_getElem hk
      obtain ⟨more, t, hcancel', hrun', ht, hevents', hmetrics'⟩ := hs.exists_run hlimit hfile
      refine ⟨actions ++ more, t, by simp [hcancel, hcancel'], hrun.append hrun', ht, ?_, ?_⟩
      · rw [hevents', hevents, List.take_succ_eq_append_getElem hk, List.flatMap_append,
          List.flatMap_singleton]
      · rw [hmetrics', hmetrics, List.take_succ_eq_append_getElem hk, Plan.countAll,
          Plan.countAll, List.foldl_append]
        rfl
  obtain ⟨actions, t, hcancel, hrun, ht, hevents, hmetrics⟩ := hfront _ le_rfl
  rw [List.take_length] at hevents hmetrics
  exact ⟨actions, t, hcancel, hrun, ⟨ht.next_eq, ht.ended⟩, hevents, hmetrics⟩

/-! ### Workers -/

/-- Workers do what the tasks of an audit can do, in any order. The caller cancels just those audits
before the last check that `late` tells, by the files. -/
def Workers.TakeTurns (late : List SourceFile → Prop) (workers : Workers) : Prop :=
  ∀ plan metrics, 0 < plan.limit → ∃ audit : FinishedAudit,
    audit.plan = plan ∧ audit.before = metrics ∧
      (CheckedLate audit.actions ↔ late plan.files) ∧
      workers plan.limit plan.root (plan.files.map fun file => (file, plan.outcome file)) metrics =
        ⟨audit.result, audit.last.events, audit.last.metrics⟩

/-- A single worker takes turns with nobody. If it is cancelled beforehand, it fails unless it has
nothing to do. -/
theorem Workers.inOrder_takesTurns (cancelled : Bool) :
    (inOrder cancelled).TakeTurns fun files => cancelled = true ∧ files ≠ [] := by
  intro plan metrics hlimit
  by_cases hlate : cancelled = true ∧ plan.files ≠ []
  · -- the run that begins with the cancellation can be completed in any way
    obtain ⟨rfl, hfiles⟩ := hlate
    have hfirst : Run plan { metrics := metrics } [.cancel] _ := Run.nil.snoc .cancel
    obtain ⟨more, t, -, hrun, hdone⟩ := hfirst.ends hlimit
    have hidle := (hfirst.append hrun).idle rfl
    have hresult := hidle.result_eq hdone hfiles
    refine ⟨⟨plan, metrics, _, t, hfirst.append hrun, hdone⟩, rfl, rfl, ?_, ?_⟩
    · exact iff_of_true (((hfirst.append hrun).sound.error_iff hdone).mp hresult) ⟨rfl, hfiles⟩
    · rw [inOrder, if_pos (by simpa using hfiles)]
      simp only [FinishedAudit.result, hresult, hidle.events_eq, hidle.metrics_eq]
  · obtain ⟨actions, t, hcancel, hrun, hdone, hevents, hmetrics⟩ :=
      exists_run_inOrder plan hlimit metrics
    have hnever : ¬CheckedLate actions := by
      rintro ⟨_, hsub⟩
      exact hcancel (hsub.subset List.mem_cons_self)
    refine ⟨⟨plan, metrics, actions, t, hrun, hdone⟩, rfl, rfl, iff_of_false hnever hlate, ?_⟩
    rw [inOrder, if_neg (by simpa using hlate)]
    simp only [FinishedAudit.result, hrun.sound.result_eq hdone hnever, hevents, hmetrics,
      Audit.ofOutcomes, List.flatMap_map, List.foldl_map]
    rfl

/-- What an audit leaves behind is what one of one file after the other leaves: the same report, the
same events in some order, and the same counters but for an order that they do not show. -/
structure AuditEnd.Finishes (last : AuditEnd) (done : Audit) : Prop where
  result_eq : last.result = .ok done.report
  events_perm : last.events.Perm done.events
  text_eq : last.metrics.text = done.metrics.text

/-- An audit by workers that take turns fails if the caller cancels it in time. Otherwise it leaves
behind what one worker leaves. -/
theorem Workers.TakeTurns.ends {late : List SourceFile → Prop} {workers : Workers}
    (h : workers.TakeTurns late) (plan : Plan) (hlimit : 0 < plan.limit) (metrics : Metrics) :
    let results := plan.files.map fun file => (file, plan.outcome file)
    let last := workers plan.limit plan.root results metrics
    (late plan.files → last.result = .error .cancelled) ∧
      (¬late plan.files → last.Finishes (Audit.ofOutcomes metrics plan.root results)) := by
  obtain ⟨⟨_, _, actions, last, hrun, hdone⟩, rfl, rfl, hlate, hworkers⟩ := h plan metrics hlimit
  simp only [hworkers]
  refine ⟨fun h => (hrun.sound.error_iff hdone).mpr (hlate.mpr h), fun h => ?_⟩
  have hnever : ¬CheckedLate actions := fun hchecked => h (hlate.mp hchecked)
  -- what was counted and logged is all there is only if no task was refused
  have herror : last.error = none := by
    have hnone := fun h => hnever (hrun.sound.late_iff.mp (Or.inl h))
    simpa using hnone
  obtain ⟨counted, hcounted⟩ := hrun.counted
  refine ⟨hrun.sound.result_eq hdone hnever, ?_, ?_⟩
  · rw [Audit.ofOutcomes, List.flatMap_map]
    exact hrun.events_perm hdone herror
  · rw [hcounted.metrics_eq, Audit.ofOutcomes, List.foldl_map]
    exact Plan.text_countAll_of_perm _ _ (hcounted.perm hdone herror)

/-- The same for the files of a system, on a machine with such workers. -/
theorem Machine.audit_ends {late : List SourceFile → Prop} {machine : Machine}
    (h : machine.workers.TakeTurns late) (system : System) (workers : Int) (root : String)
    (files : List SourceFile) :
    let last := machine.audit system workers root files
    (late files → last.result = .error .cancelled) ∧
      (¬late files → last.Finishes (Audit.ofOutcomes {} root
        (files.map fun file => (file, examine system.read root file)))) :=
  h.ends ⟨system.read, root, files, taskLimit workers machine.processors⟩
    (taskLimit_pos workers machine.processors_pos) {}

end InlineAudit
