import InlineAudit.Proofs.Audit.Conservation
import InlineAudit.Proofs.Git.Diff

/-!
Restricted audits. Every issue carries the language and the path of its file, and these are what the
filters go by; so files can be left out before an audit or their issues after it. Neither filter
touches what the other one looks at, or what an audit makes of a file.
-/

namespace InlineAudit

open Files

/-- The files that cannot be read. -/
def unreadable (read : FileReader) (root : String) (files : List SourceFile) : List SourceFile :=
  files.filter fun file => !(read (Path.joinTo root file.path)).isOk

/-- What an audit returns that nobody cancels: one file after the other, or by workers in any
schedule. -/
structure Yields (read : FileReader) (root : String) (files : List SourceFile) (report : Report) :
    Prop where
  sequence : ∀ metrics, (auditBy read false metrics root files).map (·.report) = .ok report
  pool : ∀ audit : FinishedAudit, audit.plan.read = read → audit.plan.root = root →
    audit.plan.files = files → .cancel ∉ audit.actions → audit.result = .ok report

/-- The part of a report that is about some of its files. These are told by `kept`, and their issues
by `about`. -/
structure IsPartOf (read : FileReader) (files : List SourceFile) (kept : SourceFile → Bool)
    (about : Issue → Bool) (report part : Report) : Prop where
  root_eq : part.root = report.root
  issues_eq : part.issues = report.issues.filter about
  /-- The files that are skipped are those that cannot be read, of all files and of the part. -/
  skipped_eq : report.skipped = (unreadable read report.root files).map (·.path) ∧
    part.skipped = ((unreadable read report.root files).filter kept).map (·.path)

variable {read : FileReader} {root : String} {files : List SourceFile}

/-- The report on files, one after the other. -/
def reportOn (read : FileReader) (root : String) (files : List SourceFile) : Report :=
  Report.ofOutcomes root (files.map fun file => (file, examine read root file))

theorem reportOn_yields (read : FileReader) (root : String) (files : List SourceFile) :
    Yields read root files (reportOn read root files) where
  sequence _ := rfl
  pool audit hread hroot hfiles hcancel := by
    have hlate : ¬CheckedLate audit.actions :=
      fun ⟨_, hsub⟩ => hcancel (hsub.subset List.mem_cons_self)
    subst hread hroot hfiles
    exact audit.run.sound.result_eq audit.done hlate

/-- Of the files that a filter keeps, the same is found as of all files. -/
theorem flatMap_filter {α β : Type} {kept : α → Bool} {about : β → Bool} {f : α → List β}
    {l : List α} (h : ∀ a ∈ l, ∀ b ∈ f a, about b = kept a) :
    (l.filter kept).flatMap f = (l.flatMap f).filter about := by
  induction l with
  | nil => rfl
  | cons a l ih =>
    have hrest := ih fun c hc => h c (List.mem_cons_of_mem a hc)
    have ha := h a List.mem_cons_self
    rw [List.flatMap_cons, List.filter_append, ← hrest]
    cases hkept : kept a with
    | true =>
      have hall : (f a).filter about = f a :=
        List.filter_eq_self.mpr fun b hb => (ha b hb).trans hkept
      rw [List.filter_cons_of_pos hkept, List.flatMap_cons, hall]
    | false =>
      have hnone : (f a).filter about = [] := by
        refine List.filter_eq_nil_iff.mpr fun b hb => ?_
        rw [ha b hb, hkept]
        simp
      rw [List.filter_cons_of_neg (by simp [hkept]), hnone, List.nil_append]

/-- What is found in a file tells its path and its language. -/
theorem path_language_of_mem_found {file : SourceFile} {issue : Issue}
    (h : issue ∈ (examine read root file).found) :
    issue.path = file.path ∧ issue.language = file.language := by
  rw [examine_found] at h
  split at h
  · obtain ⟨finding, -, rfl⟩ := List.mem_map.mp h
    exact ⟨rfl, rfl⟩
  · cases h

/-- Nothing else of a file matters to what becomes of it. -/
theorem examine_congr {file file' : SourceFile} (hpath : file'.path = file.path)
    (hlanguage : file'.language = file.language) :
    examine read root file' = examine read root file := by
  rw [examine, examine, hpath, hlanguage]

/-- A filter that goes by what issues tell of their files, and may mark the files it keeps. -/
theorem reportOn_isPartOf {kept : SourceFile → Bool} {about : Issue → Bool}
    (habout : ∀ file issue, issue.path = file.path → issue.language = file.language →
      about issue = kept file)
    {mark : SourceFile → SourceFile}
    (hmark : ∀ file, (mark file).path = file.path ∧ (mark file).language = file.language) :
    IsPartOf read files kept about (reportOn read root files)
      (reportOn read root ((files.filter kept).map mark)) where
  root_eq := rfl
  issues_eq := by
    have hsame : ∀ file, examine read root (mark file) = examine read root file :=
      fun file => examine_congr (hmark file).1 (hmark file).2
    simp only [reportOn, Report.ofOutcomes, flatMap_readable, List.flatMap_map, hsame]
    refine flatMap_filter fun file _ issue hissue => ?_
    obtain ⟨hpath, hlanguage⟩ := path_language_of_mem_found hissue
    exact habout file issue hpath hlanguage
  skipped_eq := by
    have hpath : ∀ file, (mark file).path = file.path := fun file => (hmark file).1
    have hskipped (files : List SourceFile) : (reportOn read root files).skipped =
        (unreadable read root files).map (·.path) :=
      (ofOutcomes_isSequential read root files).skipped_eq
    have hmarked : unreadable read root ((files.filter kept).map mark) =
        ((unreadable read root files).filter kept).map mark := by
      rw [unreadable, unreadable, List.filter_map, List.filter_filter, List.filter_filter]
      simp only [Function.comp_def, hpath, Bool.and_comm]
    refine ⟨hskipped files, ?_⟩
    rw [hskipped, hmarked, List.map_map]
    exact List.map_congr_left fun file _ => hpath file

theorem keepLanguages_eq_filter {languages : List String} (h : languages ≠ [])
    (files : List SourceFile) :
    keepLanguages languages files = files.filter fun file => file.language ∈ languages := by
  rw [keepLanguages, if_neg (by simpa using h)]
  simp

theorem Git.Diff.keepChanged_eq_map (diff : Git.Diff) (files : List SourceFile) :
    diff.keepChanged files =
      (files.filter fun file => Text.Raw.ofString file.path ∈ diff.changed).map diff.annotate := by
  rw [keepChanged]
  simp

/-- Marking files is no matter to a filter by language, so the filters can change places. -/
theorem keepLanguages_keepChanged (languages : List String) (diff : Git.Diff)
    (files : List SourceFile) :
    keepLanguages languages (diff.keepChanged files) =
      diff.keepChanged (keepLanguages languages files) := by
  by_cases hlanguages : languages = []
  · simp [keepLanguages, hlanguages]
  · have hlanguage : ∀ file, (diff.annotate file).language = file.language :=
      fun file => (diff.annotate_annotates file).language_eq
    rw [keepLanguages_eq_filter hlanguages, keepLanguages_eq_filter hlanguages,
      diff.keepChanged_eq_map, diff.keepChanged_eq_map, List.filter_map, List.filter_filter,
      List.filter_filter]
    simp only [Function.comp_def, hlanguage, Bool.and_comm]

/-- Restricting an audit changes nothing about the files that remain. An audit of the files in some
languages and one of the files that have changed, like that of all files, return a report if nobody
cancels them, whatever their schedules; and these reports are the parts of the one on all files that
are about files in those languages and about changed paths. Both restrictions together leave the
same files in either order. -/
theorem restriction_keeps_results (read : FileReader) (root : String) (files : List SourceFile)
    {languages : List String} (hlanguages : languages ≠ []) (diff : Git.Diff) :
    (∃ report inLanguages ofChanged,
      Yields read root files report ∧
      Yields read root (keepLanguages languages files) inLanguages ∧
      Yields read root (diff.keepChanged files) ofChanged ∧
      IsPartOf read files (·.language ∈ languages) (·.language ∈ languages) report inLanguages ∧
      IsPartOf read files (.ofString ·.path ∈ diff.changed) (.ofString ·.path ∈ diff.changed)
        report ofChanged ∧
      ofChanged.skipped = report.skipped.filter (.ofString · ∈ diff.changed)) ∧
    keepLanguages languages (diff.keepChanged files) =
      diff.keepChanged (keepLanguages languages files) := by
  have hannotate : ∀ file, (diff.annotate file).path = file.path ∧
      (diff.annotate file).language = file.language := fun file =>
    ⟨diff.annotate_path file, (diff.annotate_annotates file).language_eq⟩
  have hparts : IsPartOf read files (·.language ∈ languages) (·.language ∈ languages)
      (reportOn read root files) (reportOn read root (keepLanguages languages files)) := by
    rw [keepLanguages_eq_filter hlanguages, ← List.map_id (files.filter _)]
    exact reportOn_isPartOf (fun file issue _ h => by rw [h]) fun file => ⟨rfl, rfl⟩
  have hchanged : IsPartOf read files (.ofString ·.path ∈ diff.changed)
      (.ofString ·.path ∈ diff.changed)
      (reportOn read root files) (reportOn read root (diff.keepChanged files)) := by
    rw [diff.keepChanged_eq_map]
    exact reportOn_isPartOf (fun file issue h _ => by rw [h]) hannotate
  refine ⟨⟨_, _, _, reportOn_yields .., reportOn_yields .., reportOn_yields .., hparts, hchanged,
    ?_⟩, keepLanguages_keepChanged languages diff files⟩
  rw [hchanged.skipped_eq.1, hchanged.skipped_eq.2, List.filter_map]
  rfl

/-- A file in each of two languages, and one, named twice, that is not there. -/
def mixedSources : List SourceFile :=
  [{ path := "gone.py", size := 0, ext := ".py", language := "py" },
   { path := "B.java", size := 12, ext := ".java", language := "java" },
   { path := "a.py", size := 12, ext := ".py", language := "py" },
   { path := "gone.py", size := 0, ext := ".py", language := "py" }]

def mixedRead : FileReader := fun path =>
  if path = "/project/gone.py" then .error ⟨"open", path, .noEntry⟩
  else .ok (Text.encode "x; // NOSONAR".toList)

def javaChange : Git.Diff := { changed := ["B.java"], counts := [("B.java", ⟨3, 1⟩)] }

/-- Without the other language nothing is said about its file, and the missing file is skipped
twice as before. Among the changed files it is not. -/
theorem mixedSources_restricted :
    ["py"] ≠ [] ∧
    ∃ report inLanguages ofChanged,
      Yields mixedRead "/project" mixedSources report ∧
      Yields mixedRead "/project" (keepLanguages ["py"] mixedSources) inLanguages ∧
      Yields mixedRead "/project" (javaChange.keepChanged mixedSources) ofChanged ∧
      report.skipped = ["gone.py", "gone.py"] ∧ inLanguages.skipped = ["gone.py", "gone.py"] ∧
      ofChanged.skipped = [] ∧
      inLanguages.issues = report.issues.filter (·.language ∈ ["py"]) ∧
      ofChanged.issues = report.issues.filter (·.path ∈ ["B.java"]) := by
  have hlanguages : ["py"] ≠ [] := by simp
  obtain ⟨⟨report, inLanguages, ofChanged, hall, hin, hof, hpart, hpart', -⟩, -⟩ :=
    restriction_keeps_results mixedRead "/project" mixedSources hlanguages javaChange
  have hroot : report.root = "/project" := congrArg Report.root
    (Except.ok.inj ((hall.sequence {}).symm.trans ((reportOn_yields ..).sequence {})))
  have hskipped := hpart.skipped_eq
  have hskipped' := hpart'.skipped_eq
  rw [hroot] at hskipped hskipped'
  refine ⟨hlanguages, report, inLanguages, ofChanged, hall, hin, hof, ?_, ?_, ?_,
    hpart.issues_eq, ?_⟩
  · rw [hskipped.1]
    decide +kernel
  · rw [hskipped.2]
    decide +kernel
  · rw [hskipped'.2]
    decide +kernel
  · rw [hpart'.issues_eq]
    simp [javaChange, Text.Raw.ofString_injective.eq_iff]

end InlineAudit
