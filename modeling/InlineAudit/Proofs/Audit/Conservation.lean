import InlineAudit.Proofs.Audit.Counters
import InlineAudit.Proofs.Detect.Order
import InlineAudit.Proofs.Lists
import Mathlib.Algebra.BigOperators.Group.Finset.Piecewise
import Mathlib.Algebra.BigOperators.Ring.Finset

/-!
Audits one behind the other that share their counters. Each leaves the counters raised by whole
files of its plan, whether it gives a report or not; if all give reports, the counters show in the
end what the reports show together. The only work is in adding up the same things by file, by
report and by label.
-/

namespace InlineAudit

open Files

/-! ### Audits one behind the other -/

/-- An audit that has returned. -/
structure FinishedAudit where
  plan : Plan
  /-- The counters it was given. -/
  before : Metrics
  actions : List Action
  last : Pool
  run : Run plan { metrics := before } actions last
  done : last.IsDone plan

/-- Whatever the plan, an audit that nobody cancels returns with the report on its files. -/
theorem Plan.exists_finished (plan : Plan) (hlimit : 0 < plan.limit) (before : Metrics) :
    ∃ audit : FinishedAudit, audit.plan = plan ∧ audit.before = before ∧
      audit.last.result plan = .ok plan.report := by
  have hstart : Run plan { metrics := before } [] { metrics := before } := .nil
  obtain ⟨actions, last, hcancel, hrun, hdone⟩ := hstart.ends hlimit
  have hlate : ¬CheckedLate actions := fun ⟨_, hsub⟩ => hcancel (hsub.subset List.mem_cons_self)
  exact ⟨⟨plan, before, actions, last, hrun, hdone⟩, rfl, rfl, hrun.sound.result_eq hdone hlate⟩

/-- Audits one behind the other, each with the counters the one before it has left, and the
counters after the last. -/
inductive Session : List FinishedAudit → Metrics → Prop
  | nil : Session [] {}
  | snoc {audits : List FinishedAudit} {metrics : Metrics} {audit : FinishedAudit}
      (h : Session audits metrics) (hbefore : audit.before = metrics) :
      Session (audits ++ [audit]) audit.last.metrics

/-- The files of a plan that can be read. -/
def Plan.readable (plan : Plan) : List SourceFile :=
  plan.files.filter fun file => (plan.read (Path.joinTo plan.root file.path)).isOk

namespace FinishedAudit

def result (audit : FinishedAudit) : Except AuditError Report := audit.last.result audit.plan

/-- Whatever it returned, an audit has counted files of its plan, each of them whole. -/
theorem counts (audit : FinishedAudit) :
    ∃ counted : List SourceFile, counted.Subperm audit.plan.files ∧
      ∀ counter, audit.last.metrics.value counter =
        audit.before.value counter + audit.plan.adds counted counter := by
  obtain ⟨counted, hs⟩ := audit.run.counted
  refine ⟨counted.map (·.1), hs.subperm, fun counter => ?_⟩
  rw [hs.metrics_eq, Plan.value_countAll]

/-- With a report it has counted all of them. -/
theorem counts_all {audit : FinishedAudit} {report : Report} (h : audit.result = .ok report)
    (counter : Counter) :
    audit.last.metrics.value counter =
      audit.before.value counter + audit.plan.adds audit.plan.files counter := by
  have herror : audit.last.error = none := by
    cases herror : audit.last.error with
    | none => rfl
    | some error => simp [result, Pool.result, herror] at h
  obtain ⟨counted, hs⟩ := audit.run.counted
  have hperm := (hs.perm audit.done herror).map fun file =>
    (audit.plan.outcome file).adds file counter
  rw [hs.metrics_eq, Plan.value_countAll, Plan.adds, hperm.sum_eq, Plan.adds]

theorem report_eq {audit : FinishedAudit} {report : Report} (h : audit.result = .ok report) :
    report = audit.plan.report := by
  have hsound := audit.run.sound
  have hlate : ¬CheckedLate audit.actions := by
    rw [← hsound.error_iff audit.done]
    exact fun herror => by cases h.symm.trans herror
  exact Except.ok.inj (h.symm.trans (hsound.result_eq audit.done hlate))

end FinishedAudit

/-- After audits that all gave reports, every counter shows the files of all their plans. -/
theorem Session.value_eq {audits : List FinishedAudit} {final : Metrics} (h : Session audits final)
    (hreports : ∀ audit ∈ audits, ∃ report, audit.result = .ok report) (counter : Counter) :
    final.value counter =
      (audits.map fun audit => audit.plan.adds audit.plan.files counter).sum := by
  induction h with
  | nil => cases counter <;> rfl
  | @snoc audits metrics audit _ hbefore ih =>
    obtain ⟨report, hreport⟩ := hreports audit (by simp)
    have hearlier := ih fun audit haudit => hreports audit (List.mem_append_left _ haudit)
    rw [FinishedAudit.counts_all hreport, hbefore, hearlier, List.map_append, List.sum_append,
      List.map_singleton, List.sum_singleton]

/-! ### What the files of a plan add up to -/

theorem sum_map_eq_countP {α : Type} {l : List α} {f : α → Nat} {p : α → Bool}
    (h : ∀ a ∈ l, f a = if p a then 1 else 0) : (l.map f).sum = l.countP p := by
  induction l with
  | nil => rfl
  | cons a l ih =>
    rw [List.map_cons, List.sum_cons, List.countP_cons, h a List.mem_cons_self,
      ih fun b hb => h b (List.mem_cons_of_mem a hb), Nat.add_comm]

/-- Everything is counted once if it is counted by a key. -/
theorem sum_countP_key {α β : Type} [DecidableEq β] (key : α → β) (p : α → Bool) {keys : Finset β}
    {l : List α} (h : ∀ a ∈ l, key a ∈ keys) :
    ∑ b ∈ keys, l.countP (fun a => key a = b && p a) = l.countP p := by
  induction l with
  | nil => simp
  | cons a l ih =>
    have ha : ∑ b ∈ keys, (if (key a = b && p a) = true then 1 else 0) = if p a then 1 else 0 := by
      cases p a <;> simp [h a List.mem_cons_self]
    simp only [List.countP_cons, Finset.sum_add_distrib, ha,
      ih fun b hb => h b (List.mem_cons_of_mem a hb)]

theorem sum_countP_key_length {α β : Type} [DecidableEq β] (key : α → β) {keys : Finset β}
    {l : List α} (h : ∀ a ∈ l, key a ∈ keys) :
    ∑ b ∈ keys, l.countP (fun a => key a = b) = l.length := by
  simpa using sum_countP_key key (fun _ => true) h

theorem Plan.adds_readErrors (plan : Plan) :
    plan.adds plan.files .readErrors = plan.report.skipped.length := by
  have hadds : ∀ file ∈ plan.files, (plan.outcome file).adds file .readErrors =
      if (plan.outcome file).isUnreadable then 1 else 0 := by
    intro file _
    cases plan.outcome file <;> rfl
  rw [adds, sum_map_eq_countP hadds, report, Report.ofOutcomes, List.length_map,
    ← List.countP_eq_length_filter, List.countP_map]
  rfl

theorem Plan.outcome_isUnreadable (plan : Plan) (file : SourceFile) :
    (plan.outcome file).isUnreadable =
      !(plan.read (Path.joinTo plan.root file.path)).isOk :=
  examine_isUnreadable plan.read plan.root file

theorem Plan.adds_files (plan : Plan) (language : String) :
    plan.adds plan.files (.files language) = plan.readable.countP (·.language = language) := by
  rw [readable, List.countP_filter]
  refine sum_map_eq_countP fun file _ => ?_
  have hreadable := plan.outcome_isUnreadable file
  cases houtcome : plan.outcome file with
  | unreadable cause =>
    rw [houtcome, Outcome.isUnreadable, Bool.true_eq, Bool.not_eq_true'] at hreadable
    simp [Outcome.adds, hreadable]
  | issues found =>
    rw [houtcome, Outcome.isUnreadable, Bool.false_eq, Bool.not_eq_false'] at hreadable
    simp [Outcome.adds, hreadable]

theorem Plan.filesScanned_eq (plan : Plan) :
    plan.report.filesScanned = (plan.readable.length : Int) := by
  rw [report, Report.ofOutcomes, readable, List.filter_map, List.length_map]
  refine congrArg (fun files : List SourceFile => (files.length : Int)) ?_
  refine List.filter_congr fun file _ => ?_
  simp [plan.outcome_isUnreadable]

theorem Plan.issues_eq (plan : Plan) :
    plan.report.issues = plan.files.flatMap fun file => (plan.outcome file).found := by
  rw [report, Report.ofOutcomes, flatMap_readable, List.flatMap_map]

/-- Issues are findings of their file, placed among its lines. -/
theorem Plan.exists_finding {plan : Plan} {file : SourceFile} {issue : Issue}
    (h : issue ∈ (plan.outcome file).found) :
    ∃ total finding, Placed total finding ∧ issue = finding.toIssue file.path file.language := by
  rw [outcome, examine_found] at h
  cases hread : plan.read (Path.joinTo plan.root file.path) with
  | error cause =>
    rw [hread] at h
    cases h
  | ok content =>
    rw [hread] at h
    obtain ⟨finding, hfinding, rfl⟩ := List.mem_map.mp h
    exact ⟨_, finding, finding_placed hfinding, rfl⟩

/-- Issues are in the language of their file and of a known family. -/
theorem Plan.mem_found {plan : Plan} {file : SourceFile} {issue : Issue}
    (h : issue ∈ (plan.outcome file).found) :
    issue.language = file.language ∧ issue.category ∈ Category.all := by
  obtain ⟨total, finding, hplaced, rfl⟩ := exists_finding h
  exact ⟨rfl, hplaced.category⟩

theorem Plan.adds_directives (plan : Plan) (language : String) (category : Category) :
    plan.adds plan.files (.directives language category) =
      plan.report.issues.countP fun issue =>
        issue.language = language && issue.category = category := by
  rw [issues_eq, List.countP_flatMap, adds]
  refine congrArg List.sum (List.map_congr_left fun file _ => ?_)
  have hlanguage := fun issue (h : issue ∈ (plan.outcome file).found) => (mem_found h).1
  rw [Function.comp_apply]
  cases houtcome : plan.outcome file with
  | unreadable cause => rfl
  | issues found =>
    rw [houtcome, Outcome.found] at hlanguage
    rw [Outcome.adds, Outcome.found]
    split
    · rename_i h
      refine List.countP_congr fun issue hissue => ?_
      simp [hlanguage issue hissue, h]
    · rename_i h
      refine (List.countP_eq_zero.mpr fun issue hissue => ?_).symm
      simp [hlanguage issue hissue, h]

theorem Report.lookup_countByCategory (report : Report) (category : Category) :
    (report.countByCategory.lookup category).getD 0 = report.countOf category := by
  rw [countByCategory, countOf]
  by_cases h : category ∈ report.issues.map (·.category)
  · rw [List.lookup_graph _ (List.mem_eraseDups.mpr h), Option.getD_some]
  · rw [List.lookup_eq_none_iff.mpr, Option.getD_none, List.count_eq_zero.mpr h]
    intro pair hpair
    obtain ⟨other, hother, rfl⟩ := List.mem_map.mp hpair
    have hne : category ≠ other := by
      rintro rfl
      exact h (List.mem_eraseDups.mp hother)
    exact bne_iff_ne.mpr hne

/-! ### The counters in the end -/

/-- The counters show what the reports show. A sum over labels is taken over any set of languages
that has those of all files; the families of directives are known. -/
structure Conserves (audits : List FinishedAudit) (reports : List Report) (final : Metrics) :
    Prop where
  readErrors_eq : final.readErrors = (reports.map (·.skipped.length)).sum
  filesIn_eq : ∀ language, final.filesIn language =
    (audits.flatMap (·.plan.readable)).countP (·.language = language)
  sum_filesIn : ∀ languages : Finset String,
    (∀ audit ∈ audits, ∀ file ∈ audit.plan.files, file.language ∈ languages) →
    ∑ language ∈ languages, (final.filesIn language : Int) = (reports.map (·.filesScanned)).sum
  directivesIn_eq : ∀ language category, final.directivesIn language category =
    (reports.flatMap (·.issues)).countP fun issue =>
      issue.language = language && issue.category = category
  sum_directivesIn : ∀ languages : Finset String,
    (∀ audit ∈ audits, ∀ file ∈ audit.plan.files, file.language ∈ languages) →
    ∑ language ∈ languages, ∑ category ∈ Category.all.toFinset,
      final.directivesIn language category = (reports.map (·.issues.length)).sum
  sum_directivesIn_of : ∀ languages : Finset String,
    (∀ audit ∈ audits, ∀ file ∈ audit.plan.files, file.language ∈ languages) →
    ∀ category, ∑ language ∈ languages, final.directivesIn language category =
      (reports.map fun report => (report.countByCategory.lookup category).getD 0).sum

namespace Session

variable {audits : List FinishedAudit} {final : Metrics}

/-- All issues of the reports are in languages of the files and of known families. -/
theorem mem_issues {audits : List FinishedAudit} {issue : Issue}
    (h : issue ∈ (audits.map (·.plan.report)).flatMap (·.issues)) :
    (∃ audit ∈ audits, ∃ file ∈ audit.plan.files, issue.language = file.language) ∧
      issue.category ∈ Category.all := by
  rw [List.flatMap_map] at h
  obtain ⟨audit, haudit, hissue⟩ := List.mem_flatMap.mp h
  rw [Plan.issues_eq] at hissue
  obtain ⟨file, hfile, hissue⟩ := List.mem_flatMap.mp hissue
  exact ⟨⟨audit, haudit, file, hfile, (Plan.mem_found hissue).1⟩, (Plan.mem_found hissue).2⟩

theorem conserves (h : Session audits final)
    (hreports : ∀ audit ∈ audits, ∃ report, audit.result = .ok report) :
    Conserves audits (audits.map (·.plan.report)) final := by
  have hvalue := h.value_eq hreports
  have hfiles (language : String) : final.filesIn language =
      (audits.flatMap (·.plan.readable)).countP (·.language = language) := by
    rw [List.countP_flatMap]
    exact (hvalue (.files language)).trans (by simp only [Plan.adds_files]; rfl)
  have hdirectives (language : String) (category : Category) :
      final.directivesIn language category =
        ((audits.map (·.plan.report)).flatMap (·.issues)).countP fun issue =>
          issue.language = language && issue.category = category := by
    rw [List.countP_flatMap, List.map_map]
    exact (hvalue (.directives language category)).trans
      (by simp only [Plan.adds_directives]; rfl)
  have hof (languages : Finset String)
      (hall : ∀ audit ∈ audits, ∀ file ∈ audit.plan.files, file.language ∈ languages)
      (category : Category) :
      ∑ language ∈ languages, final.directivesIn language category =
        ((audits.map (·.plan.report)).flatMap (·.issues)).countP (·.category = category) := by
    simp only [hdirectives]
    refine sum_countP_key (fun issue : Issue => issue.language) _ fun issue hissue => ?_
    obtain ⟨⟨audit, haudit, file, hfile, hlanguage⟩, -⟩ := mem_issues hissue
    exact hlanguage ▸ hall audit haudit file hfile
  constructor
  case readErrors_eq =>
    rw [List.map_map]
    exact (hvalue .readErrors).trans (by simp only [Plan.adds_readErrors]; rfl)
  case filesIn_eq => exact hfiles
  case directivesIn_eq => exact hdirectives
  case sum_filesIn =>
    intro languages hall
    have hscanned : (audits.map (·.plan.report)).map (·.filesScanned) =
        audits.map fun audit => (audit.plan.readable.length : Int) := by
      rw [List.map_map]
      exact List.map_congr_left fun audit _ => audit.plan.filesScanned_eq
    calc
      ∑ language ∈ languages, (final.filesIn language : Int)
      _ = ((∑ language ∈ languages,
            (audits.flatMap (·.plan.readable)).countP (·.language = language) : Nat) : Int) := by
        simp only [hfiles, Nat.cast_sum]
      _ = ((audits.flatMap (·.plan.readable)).length : Int) := by
        refine congrArg _ (sum_countP_key_length (fun file : SourceFile => file.language) ?_)
        intro file hfile
        obtain ⟨audit, haudit, hfile⟩ := List.mem_flatMap.mp hfile
        exact hall audit haudit file (List.mem_of_mem_filter hfile)
      _ = _ := by
        rw [hscanned, List.length_flatMap, Nat.cast_list_sum, List.map_map]
        rfl
  case sum_directivesIn =>
    intro languages hall
    calc
      ∑ language ∈ languages, ∑ category ∈ Category.all.toFinset,
          final.directivesIn language category
      _ = ∑ category ∈ Category.all.toFinset,
          ((audits.map (·.plan.report)).flatMap (·.issues)).countP (·.category = category) := by
        rw [Finset.sum_comm]
        simp only [hof languages hall]
      _ = ((audits.map (·.plan.report)).flatMap (·.issues)).length :=
        sum_countP_key_length (fun issue : Issue => issue.category) fun issue hissue =>
          List.mem_toFinset.mpr (mem_issues hissue).2
      _ = _ := List.length_flatMap
  case sum_directivesIn_of =>
    intro languages hall category
    rw [hof languages hall, List.countP_flatMap]
    refine congrArg List.sum (List.map_congr_left fun report _ => ?_)
    rw [Report.lookup_countByCategory, Report.countOf, List.count_eq_countP, List.countP_map]
    rfl

end Session

/-- Audits share their counters from zero, one behind the other, each with its tasks in any order.
Counters never go down. Every audit, be it with an error, leaves them raised by whole files of its
plan, none more often than it stands there: a file adds one read error, or one file and its issues.
If all audits give reports, the counters show in the end what the reports show together. -/
theorem counters_conserved {audits : List FinishedAudit} {final : Metrics}
    (h : Session audits final) :
    (∀ plan s actions t, Run plan s actions t →
      ∀ counter, s.metrics.value counter ≤ t.metrics.value counter) ∧
    (∀ audit ∈ audits, ∃ counted : List SourceFile, counted.Subperm audit.plan.files ∧
      ∀ counter, audit.last.metrics.value counter = audit.before.value counter +
        (counted.map fun file => (audit.plan.outcome file).adds file counter).sum) ∧
    ∀ reports : List Report, audits.map (·.result) = reports.map .ok →
      Conserves audits reports final := by
  refine ⟨fun _ _ _ _ hrun => hrun.value_le, fun audit _ => audit.counts, ?_⟩
  intro reports hresults
  have hreport : ∀ audit ∈ audits, ∃ report, audit.result = .ok report := by
    intro audit haudit
    have hmem : audit.result ∈ reports.map .ok := hresults ▸ List.mem_map_of_mem haudit
    obtain ⟨report, -, hreport⟩ := List.mem_map.mp hmem
    exact ⟨report, hreport.symm⟩
  have hreports : reports = audits.map (·.plan.report) := by
    refine List.map_injective_iff.mpr (fun _ _ => Except.ok.inj) (hresults.symm.trans ?_)
    rw [List.map_map]
    refine List.map_congr_left fun audit haudit => ?_
    obtain ⟨report, h⟩ := hreport audit haudit
    rw [h, FinishedAudit.report_eq h, Function.comp_apply]
  rw [hreports]
  exact h.conserves hreport

/-- A file with two markers, and one that cannot be read. -/
def markedFile : Plan where
  read path :=
    if path = "/project/a.py" then .ok (Text.encode "# NOSONAR\nx = 1  # NOSONAR".toList)
    else .error ⟨"open", path, .noEntry⟩
  root := "/project"
  files :=
    [{ path := "a.py", size := 26, ext := ".py", language := "py" },
     { path := "b.py", size := 0, ext := ".py", language := "py" }]
  limit := 2

/-- It is audited after a file that is missing. -/
theorem markedFile_counted :
    ∃ (audits : List FinishedAudit) (final : Metrics) (reports : List Report),
      Session audits final ∧ audits.map (·.plan) = [missingFile, markedFile] ∧
      audits.map (·.result) = reports.map .ok ∧
      final.readErrors = 2 ∧ final.filesIn "py" = 1 ∧
      final.directivesIn "py" .bareMarker = 2 := by
  obtain ⟨first, hfirst, hbefore, hfirstResult⟩ := missingFile.exists_finished (by decide) {}
  obtain ⟨second, hsecond, hshared, hsecondResult⟩ :=
    markedFile.exists_finished (by decide) first.last.metrics
  have hsession : Session [first, second] second.last.metrics :=
    (Session.nil.snoc hbefore).snoc hshared
  have hresults : [first, second].map (·.result) =
      [missingFile.report, markedFile.report].map .ok := by
    simp only [List.map_cons, List.map_nil, FinishedAudit.result, hfirst, hsecond, hfirstResult,
      hsecondResult]
  have hconserves := (counters_conserved hsession).2.2 _ hresults
  refine ⟨_, _, _, hsession, by simp [hfirst, hsecond], hresults, ?_, ?_, ?_⟩
  · rw [hconserves.readErrors_eq]
    decide +kernel
  · rw [hconserves.filesIn_eq]
    simp only [List.flatMap_cons, List.flatMap_nil, hfirst, hsecond]
    decide +kernel
  · rw [hconserves.directivesIn_eq]
    decide +kernel

end InlineAudit
