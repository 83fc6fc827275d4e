import InlineAudit.Command.Scan
import InlineAudit.Proofs.Audit.Turns
import InlineAudit.Proofs.Git.Diff
import InlineAudit.Proofs.Report.Outline
import InlineAudit.Proofs.Walk
import InlineAudit.Tools.Reply

/-!
From a directory tree to a text report. The tree of a report has no place for an issue whose path
runs through that of another one, but no scan comes up with such issues: files have nothing below
them, both filters only leave files out, and every issue has the path of a file that is left. So
each issue of a scan finds its place when its turn comes, and the report can be shown.
-/

namespace InlineAudit

open Files Text

/-- The files that the filters leave: those of some languages and, if a difference is given, of
these the changed ones. -/
def filesLeft (languages : List String) (diff : Option Git.Diff) (files : List SourceFile) :
    List SourceFile :=
  match diff with
  | none => keepLanguages languages files
  | some diff => diff.keepChanged (keepLanguages languages files)

/-- An issue that is put into trees has a place there: no file stands on its way and no directory
at its end. -/
structure FindsPlace (trees : List Tree) (issue : Issue) : Prop where
  way_free : ¬Tree.PassesFile (Tree.issuesAtAll trees) (Path.components issue.path)
  end_free : ¬Tree.IsDirectory (Tree.issuesAtAll trees) (Path.components issue.path)
  inserted : (Tree.insertIssue trees issue).isSome

/-- A report whose text can be shown with all its issues. -/
structure Showable (report : Report) : Prop where
  /-- Each issue finds its place among those before it. -/
  places : ∀ earlier issue later, report.issues = earlier ++ issue :: later →
    ∃ trees, Tree.ofIssues? earlier = some trees ∧ FindsPlace trees issue
  text : ∀ finish, (report.text? finish).isSome
  shown : ∃ trees rows, Tree.ofIssues? report.issues = some trees ∧
    (∀ finish, Report.forestRows finish "" (Tree.tidyAll trees) = rows.map (Row.text finish)) ∧
    Shows report rows

/-! ### Reports with paths apart -/

theorem PathsApart.findsPlace {earlier later : List Issue} {issue : Issue}
    (h : PathsApart (earlier ++ issue :: later)) :
    ∃ trees, Tree.ofIssues? earlier = some trees ∧ FindsPlace trees issue := by
  have hissue : issue ∈ earlier ++ issue :: later := by simp
  have hearlier : ∀ other ∈ earlier, other ∈ earlier ++ issue :: later := by
    intro other hother
    exact List.mem_append_left _ hother
  have habove : ∀ other ∈ earlier, ¬Path.IsAbove other.path issue.path :=
    fun other hother => h other (hearlier other hother) issue hissue
  have hbelow : ∀ other ∈ earlier, ¬Path.IsAbove issue.path other.path :=
    fun other hother => h issue hissue other (hearlier other hother)
  obtain ⟨trees, htrees, hholds⟩ := Tree.ofIssues?_holds (h.mono hearlier)
  obtain ⟨trees', hinsert, -⟩ := hholds.insertIssue habove hbelow
  refine ⟨trees, htrees, hholds.not_passesFile habove, hholds.not_isDirectory hbelow, ?_⟩
  rw [hinsert]
  rfl

theorem PathsApart.showable {report : Report} (h : PathsApart report.issues) :
    Showable report := by
  obtain ⟨trees, htrees, hholds⟩ := Tree.ofIssues?_holds h
  refine ⟨?_, ?_, trees, Tree.rowsAll [] (Tree.tidyAll trees), htrees, ?_, ?_⟩
  · intro earlier issue later hsplit
    exact (hsplit ▸ h).findsPlace
  · intro finish
    rw [Report.text?, Report.rows?, Option.isSome_map, Option.isSome_map, htrees]
    split <;> rfl
  · exact fun finish => Report.forestRows_eq finish [] (Tree.tidyAll trees)
  · exact (hholds.lists.perm (Tree.leavesAll_tidyAll trees)).shows
      hholds.wellFormed.tidyAll_ordered

/-! ### Filters and audit -/

/-- Filters leave paths out and change none. -/
theorem filesLeft_paths_sublist (languages : List String) (diff : Option Git.Diff)
    (files : List SourceFile) :
    ((filesLeft languages diff files).map (·.path)).Sublist (files.map (·.path)) := by
  have hlanguages : ((keepLanguages languages files).map (·.path)).Sublist
      (files.map (·.path)) := by
    rw [keepLanguages]
    split
    · exact List.Sublist.refl _
    · exact List.filter_sublist.map _
  cases diff with
  | none => exact hlanguages
  | some diff =>
    have hpaths : (fun file => (diff.annotate file).path) = (·.path) :=
      funext diff.annotate_path
    refine List.Sublist.trans ?_ hlanguages
    rw [filesLeft, Git.Diff.keepChanged, List.map_map, Function.comp_def, hpaths]
    exact List.filter_sublist.map _

/-- Every issue of a report has the path of a file that was audited. -/
theorem path_of_mem_issues {read : FileReader} {base : String} {files : List SourceFile}
    {issue : Issue}
    (hissue : issue ∈ (Report.ofOutcomes base
      (files.map fun file => (file, examine read base file))).issues) :
    ∃ file ∈ files, issue.path = file.path := by
  obtain ⟨⟨file, outcome⟩, hresult, hissue⟩ := List.mem_flatMap.mp hissue
  obtain ⟨file', hfile, hpair⟩ := List.mem_map.mp (List.mem_filter.mp hresult).1
  obtain ⟨rfl, rfl⟩ := Prod.mk.inj hpair
  refine ⟨file', hfile, ?_⟩
  rw [examine] at hissue
  split at hissue
  · cases hissue
  · obtain ⟨finding, -, rfl⟩ := List.mem_map.mp hissue
    rfl

section

variable {ignored : String → Bool} {name : String} {node : Node} {all files : List SourceFile}

/-- The files that are left of a tree keep their paths apart. -/
theorem filesLeft_paths_apart (hnode : node.WellFormed)
    (hall : sourcesOf ignored name node = .ok all) (languages : List String)
    (diff : Option Git.Diff) :
    ∀ a ∈ filesLeft languages diff all, ∀ b ∈ filesLeft languages diff all,
      ¬Path.IsAbove a.path b.path := by
  have hsource : ∀ f ∈ filesLeft languages diff all, ∃ source ∈ all, source.path = f.path := by
    intro f hf
    have hpath := List.mem_map_of_mem (f := (·.path)) hf
    exact List.mem_map.mp ((filesLeft_paths_sublist languages diff _).mem hpath)
  intro a ha b hb
  obtain ⟨source, hsource', hpath⟩ := hsource a ha
  obtain ⟨other, hother, hpath'⟩ := hsource b hb
  rw [← hpath, ← hpath']
  exact sourcesOf_paths_apart hnode hall hsource' hother

theorem ofOutcomes_showable {read : FileReader} {base : String}
    (hfiles : ∀ a ∈ files, ∀ b ∈ files, ¬Path.IsAbove a.path b.path) (diffRef : String) :
    Showable { Report.ofOutcomes base (files.map fun file => (file, examine read base file)) with
      diffRef := diffRef } := by
  refine PathsApart.showable fun a ha b hb => ?_
  obtain ⟨file, hfile, hpath⟩ := path_of_mem_issues ha
  obtain ⟨other, hother, hpath'⟩ := path_of_mem_issues hb
  rw [hpath, hpath']
  exact hfiles file hfile other hother

end

/-! ### The ways to scan -/

/-- The files of a scan are what its filters leave of those that the walk chooses. -/
theorem Command.select_files {environment : Command.Environment} {root : String}
    {options : Command.Options} {plan : Command.Plan} {selection : Command.Selection}
    {calls : List (List String)}
    (h : Command.select environment root options plan = (.ok selection, calls)) :
    ∃ all diff, sourceFiles environment.system
        (ignorePatterns? environment.system plan.path plan.settings.exclude) plan.path = .ok all ∧
      selection.files = filesLeft (plan.settings.languages.map (·.shown)) diff all := by
  rw [Command.select] at h
  split at h
  · simp at h
  · rename_i all hall
    refine ⟨all, ?_⟩
    split at h
    · split at h
      · simp at h
      · rename_i diff calls' hdiff
        obtain ⟨h, -⟩ := Prod.mk.inj h
        exact ⟨some diff, hall, by rw [← Except.ok.inj h]; rfl⟩
    · obtain ⟨h, -⟩ := Prod.mk.inj h
      exact ⟨none, hall, by rw [← Except.ok.inj h]; rfl⟩

/-- A tool reports on such files, if it comes to report on any. -/
theorem Tools.auditPath_cases (environment : Tools.Environment) (path ref : String)
    (languages : List String) (format : String) :
    (∃ cause, (Tools.auditPath environment path ref languages format).result = .error cause ∧
      cause ≠ .noTree) ∨
    ∃ root all diff, root = Path.absolute environment.system.cwd path ∧
      sourceFiles environment.system (ignorePatterns? environment.system root []) root = .ok all ∧
      (Tools.auditPath environment path ref languages format).result =
        (Tools.reportOn environment root ref format (filesLeft languages diff all)).result := by
  by_cases hpath : path = ""
  · exact .inl ⟨.noPath, by rw [Tools.auditPath, if_pos hpath], by simp⟩
  rw [Tools.auditPath, if_neg hpath]
  dsimp only
  split
  · rename_i language hlanguage
    exact .inl ⟨.unsupported language, rfl, by simp⟩
  · split
    · rename_i cause hcause
      exact .inl ⟨.walk cause, rfl, by simp⟩
    · rename_i all hall
      split
      · exact .inr ⟨_, all, none, rfl, hall, rfl⟩
      · split
        · rename_i cause calls hdiff
          exact .inl ⟨.diff ref cause, rfl, by simp⟩
        · rename_i diff calls hdiff
          exact .inr ⟨_, all, some diff, rfl, hall, rfl⟩

/-- Of a report that can be shown, the tree is never what is missing. -/
theorem Showable.render_ne {report : Report} (h : Showable report) (format : String) :
    Tools.render format report ≠ .error .noTree := by
  rw [Tools.render]
  split
  · simp
  · split
    · obtain ⟨text, htext⟩ := Option.isSome_iff_exists.mp (h.text .bare)
      rw [htext]
      simp
    · simp

/-- What workers that take turns report on, if they come to an end, is the report on files one after
the other. -/
theorem Workers.TakeTurns.report_eq {late : List SourceFile → Prop} {machine : Machine}
    (h : machine.workers.TakeTurns late) {system : System} {workers : Int} {root : String}
    {files : List SourceFile} {report : Report}
    (hreport : (machine.audit system workers root files).result = .ok report) :
    report =
      Report.ofOutcomes root (files.map fun file => (file, examine system.read root file)) := by
  obtain ⟨hlate, hfinishes⟩ := Machine.audit_ends h system workers root files
  -- a cancelled audit has no report
  by_cases hfiles : late files
  · rw [hlate hfiles] at hreport
    cases hreport
  · exact Except.ok.inj (hreport.symm.trans (hfinishes hfiles).result_eq)

/-- What is found in the files that are left of a tree can be shown. -/
theorem filesLeft_showable {root : Node} (hroot : root.WellFormed) {system : System}
    {patterns : Option (List Ignore.Pattern)} {path : String} {all : List SourceFile}
    (hlstat : system.lstat path = .ok root) (hall : sourceFiles system patterns path = .ok all)
    (languages : List String) (diff : Option Git.Diff) (read : FileReader) (base diffRef : String) :
    Showable { Report.ofOutcomes base ((filesLeft languages diff all).map fun file =>
      (file, examine read base file)) with diffRef := diffRef } := by
  rw [sourceFiles, hlstat] at hall
  exact ofOutcomes_showable (filesLeft_paths_apart hroot hall languages diff) diffRef

/-- So the program can show what its workers find. -/
theorem Command.selection_showable {root : Node} (hroot : root.WellFormed)
    {late : List SourceFile → Prop} {environment : Command.Environment} {path : String}
    {options : Command.Options} {plan : Command.Plan} {selection : Command.Selection}
    {calls : List (List String)} {report : Report}
    (hturns : environment.machine.workers.TakeTurns late)
    (hlstat : environment.system.lstat plan.path = .ok root)
    (hselect : Command.select environment path options plan = (.ok selection, calls))
    (hreport : (environment.machine.audit environment.system plan.settings.workers plan.path
      selection.files).result = .ok report) :
    Showable { report with diffRef := selection.diffRef } := by
  obtain ⟨all, diff, hall, hfiles⟩ := Command.select_files hselect
  rw [hturns.report_eq hreport, hfiles]
  exact filesLeft_showable hroot hlstat hall _ diff ..

/-- Whatever tree a scan is given and whatever is ignored or filtered out, the paths of the files
that are left are distinct and none runs through another one. So when a report on them is shown, be
it of one worker or of several in any schedule, each issue finds its place when its turn comes, the
text can be written, and no issue is lost in it. In particular neither the program nor a tool ever
comes up with a report that cannot be shown. -/
theorem scan_showable {root : Node} (hroot : root.WellFormed) :
    (∀ ignored name all, sourcesOf ignored name root = .ok all → ∀ languages diff,
      ((filesLeft languages diff all).map (·.path)).Nodup ∧
      (∀ a ∈ filesLeft languages diff all, ∀ b ∈ filesLeft languages diff all,
        ¬Path.IsAbove a.path b.path) ∧
      (∀ read metrics base, ∃ done,
        auditBy read false metrics base (filesLeft languages diff all) = .ok done ∧
          Showable done.report) ∧
      ∀ (audit : FinishedAudit) report diffRef, audit.plan.files = filesLeft languages diff all →
        audit.result = .ok report → Showable { report with diffRef := diffRef }) ∧
    (∀ (environment : Command.Environment) path options plan selection calls late report,
      environment.machine.workers.TakeTurns late →
      environment.system.lstat plan.path = .ok root →
      Command.select environment path options plan = (.ok selection, calls) →
      (environment.machine.audit environment.system plan.settings.workers plan.path
        selection.files).result = .ok report →
      Showable { report with diffRef := selection.diffRef }) ∧
    ∀ (environment : Tools.Environment) path ref languages format late,
      environment.machine.workers.TakeTurns late →
      environment.system.lstat (Path.absolute environment.system.cwd path) = .ok root →
      (Tools.auditPath environment path ref languages format).result ≠ .error .noTree := by
  refine ⟨?_, ?_, ?_⟩
  · intro ignored name all hall languages diff
    have hapart := filesLeft_paths_apart hroot hall languages diff
    refine ⟨?_, hapart, ?_, ?_⟩
    · exact (filesLeft_paths_sublist languages diff _).nodup (sourcesOf_paths_nodup hroot hall)
    · exact fun read metrics base => ⟨_, rfl, ofOutcomes_showable hapart ""⟩
    · intro audit report diffRef hfiles hresult
      obtain rfl := audit.report_eq hresult
      rw [Plan.report, hfiles]
      exact ofOutcomes_showable hapart diffRef
  · exact fun _ _ _ _ _ _ _ _ => Command.selection_showable hroot
  · intro environment path ref languages format late hturns hlstat hnoTree
    obtain ⟨cause, hcause, hne⟩ | ⟨root, all, diff, rfl, hall, hresult⟩ :=
      Tools.auditPath_cases environment path ref languages format
    · exact hne (Except.error.inj (hcause.symm.trans hnoTree))
    · rw [hresult, Tools.reportOn] at hnoTree
      dsimp only at hnoTree
      split at hnoTree
      · simp at hnoTree
      · rename_i report hreport
        have hshow : Showable { report with diffRef := ref } := by
          rw [hturns.report_eq hreport]
          exact filesLeft_showable hroot hlstat hall languages diff ..
        exact hshow.render_ne format hnoTree

/-- A git that has seen a change of one path. -/
def sampleGit : Git.Executable := fun arguments =>
  .ok (encodeString (if arguments = Git.untrackedArguments then "" else "1\t0\ta/A.java\n"))

/-- The tree with a link and a skipped directory. -/
def sampleWorld : Command.Environment := { system := sampleSystem, git := sampleGit, guid := "" }

/-- A plan for its directory, where only one language is looked at. -/
def samplePlan : Command.Plan :=
  ⟨"/bin", { languages := ["java"] }, { level := .info, style := .json }⟩

theorem sampleWorld_selects : ∃ selection calls,
    Command.select sampleWorld "/bin" { diff := true } samplePlan = (.ok selection, calls) := by
  obtain ⟨all, hfiles⟩ : ∃ all,
      sourceFiles sampleSystem (ignorePatterns? sampleSystem "/bin" []) "/bin" = .ok all := by
    rw [sourceFiles, sampleSystem_bin]
    exact Walk.sourcesOf_of_readable sampleEntries_readable
  rw [Command.select]
  simp only [sampleWorld, samplePlan, hfiles]
  exact ⟨_, _, rfl⟩

/-- The files of the tree that are left keep their paths apart, and both the program and a tool can
show what is found in them. -/
theorem sampleTree_showable :
    (Node.dir "bin" sampleEntries).WellFormed ∧
    (∃ all, sourcesOf (fun _ => false) "/bin" (.dir "bin" sampleEntries) = .ok all ∧
      ((filesLeft ["java"] none all).map (·.path)).Nodup) ∧
    (∃ selection calls report,
      Command.select sampleWorld "/bin" { diff := true } samplePlan = (.ok selection, calls) ∧
      (sampleWorld.machine.audit sampleSystem 0 "/bin" selection.files).result = .ok report ∧
      Showable { report with diffRef := selection.diffRef }) ∧
    (Tools.auditPath { system := sampleSystem, git := sampleGit } "/bin" "" [] "").result ≠
      .error .noTree := by
  have hwell : (Node.dir "bin" sampleEntries).WellFormed := by
    simp [sampleEntries, Node.WellFormedAll, Node.WellFormed, Node.name]
  have hturns := Workers.inOrder_takesTurns false
  have habsolute : Path.absolute sampleSystem.cwd "/bin" = "/bin" := by decide +kernel
  obtain ⟨hapart, hprogram, htool⟩ := scan_showable hwell
  obtain ⟨all, hall⟩ : ∃ all,
      sourcesOf (fun _ => false) "/bin" (.dir "bin" sampleEntries) = .ok all :=
    Walk.sourcesOf_of_readable sampleEntries_readable
  obtain ⟨selection, calls, hselect⟩ := sampleWorld_selects
  obtain ⟨report, hreport⟩ : ∃ report,
      (sampleWorld.machine.audit sampleSystem 0 "/bin" selection.files).result = .ok report :=
    ⟨_, rfl⟩
  refine ⟨hwell, ⟨all, hall, (hapart _ _ _ hall _ _).1⟩,
    ⟨selection, calls, report, hselect, hreport, ?_⟩, ?_⟩
  · exact hprogram sampleWorld _ _ samplePlan _ _ _ _ hturns sampleSystem_bin hselect hreport
  · refine htool _ _ _ _ _ _ hturns ?_
    exact (congrArg sampleSystem.lstat habsolute).trans sampleSystem_bin

end InlineAudit
