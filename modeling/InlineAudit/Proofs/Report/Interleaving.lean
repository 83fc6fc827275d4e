import InlineAudit.Proofs.Lists
import InlineAudit.Proofs.Report.Printing
import Mathlib.Data.List.Sort

/-!
Reports with the same issues in another order. As long as the issues of each file stay in order, the
trees hold the same everywhere, so they are one and the same tree as soon as they are tidy; and the
box only counts. So the text depends neither on how files are interleaved nor on the order in which
the directories and the counts are gone through.
-/

namespace InlineAudit

open Text

/-! ### Trees that hold the same -/

namespace Tree

/-- Trees of one name that hold the same issues everywhere. -/
structure Same (a b : Tree) : Prop where
  name : a.name = b.name
  held : ∀ place, a.issuesAt place = b.issuesAt place

theorem Same.symm {a b : Tree} (h : Same a b) : Same b a :=
  ⟨h.name.symm, fun place => (h.held place).symm⟩

theorem Before.asymm {a b : Tree} (h : Before a b) : ¬Before b a := by
  intro h'
  have hkind : a.isFile = b.isFile := Bool.eq_iff_iff.mpr ⟨h.dirs_first, h'.dirs_first⟩
  exact List.lt_asymm (h.label_lt hkind) (h'.label_lt hkind.symm)

instance : Std.Asymm Before := ⟨fun _ _ h => h.asymm⟩

theorem issuesAtAll_of_mem {trees : List Tree} (h : WellFormedAll trees) {tree : Tree}
    (htree : tree ∈ trees) (rest : List String) :
    issuesAtAll trees (tree.name :: rest) = tree.issuesAt (tree.name :: rest) := by
  induction trees with
  | nil => cases htree
  | cons first more ih =>
    rcases List.mem_cons.mp htree with rfl | hmore
    · exact issuesAtAll_cons_self h.2.1 rest
    · rw [issuesAtAll_cons_of_ne (h.2.1 tree hmore).symm, ih h.2.2 hmore]

section

variable {trees trees' : List Tree} (h : WellFormedAll trees) (h' : WellFormedAll trees')
  (hheld : ∀ place, issuesAtAll trees place = issuesAtAll trees' place)

include h h' hheld

theorem exists_same {tree : Tree} (htree : tree ∈ trees) : ∃ tree' ∈ trees', Same tree tree' := by
  -- the tree holds something under its name, so there is one of this name on the other side
  obtain ⟨behind, hbehind⟩ := (h.of_mem htree).exists_issuesAt
  rw [← issuesAtAll_of_mem h htree, hheld] at hbehind
  obtain ⟨tree', htree', hname⟩ : ∃ tree' ∈ trees', some tree.name = some tree'.name := by
    by_contra hnone
    push Not at hnone
    exact hbehind (issuesAtAll_eq_nil hnone)
  have hname := Option.some.inj hname
  refine ⟨tree', htree', hname, fun place => ?_⟩
  by_cases hplace : place.head? = some tree.name
  · obtain ⟨rest, rfl⟩ := List.head?_eq_some_iff.mp hplace
    rw [← issuesAtAll_of_mem h htree, hheld, hname, issuesAtAll_of_mem h' htree']
  · rw [issuesAt_eq_nil hplace, issuesAt_eq_nil (hname ▸ hplace)]

theorem tidyAll_eq_of_same
    (hsame : ∀ tree ∈ trees, ∀ tree' ∈ trees', Same tree tree' → tree.tidy = tree'.tidy) :
    tidyAll trees = tidyAll trees' := by
  have hmem : ∀ tidied, tidied ∈ tidyAll trees ↔ tidied ∈ tidyAll trees' := by
    intro tidied
    rw [(tidyAll_perm trees).mem_iff, (tidyAll_perm trees').mem_iff, List.mem_map, List.mem_map]
    constructor
    · rintro ⟨tree, htree, rfl⟩
      obtain ⟨tree', htree', hsame'⟩ := exists_same h h' hheld htree
      exact ⟨tree', htree', (hsame tree htree tree' htree' hsame').symm⟩
    · rintro ⟨tree', htree', rfl⟩
      obtain ⟨tree, htree, hsame'⟩ := exists_same h' h (fun place => (hheld place).symm) htree'
      exact ⟨tree, htree, hsame tree htree tree' htree' hsame'.symm⟩
  exact (tidyAll_before h).eq_of_mem_iff (tidyAll_before h') hmem

end

mutual

theorem WellFormed.tidy_eq {tree tree' : Tree} (h : tree.WellFormed) (h' : tree'.WellFormed)
    (hsame : Same tree tree') : tree.tidy = tree'.tidy := by
  obtain ⟨hname, hheld⟩ := hsame
  match tree, tree', h, h' with
  | file name issues, file name' issues', h, h' =>
    obtain rfl : name = name' := hname
    have hissues := hheld [name]
    simp only [issuesAt, if_true] at hissues
    rw [tidy, tidy, hissues]
  | file name issues, dir name' children', h, h' =>
    have hissues := hheld [name]
    simp only [issuesAt, if_true, issuesAtAll_nil, ite_self] at hissues
    exact absurd hissues h.2
  | dir name children, file name' issues', h, h' =>
    have hissues := hheld [name']
    simp only [issuesAt, if_true, issuesAtAll_nil, ite_self] at hissues
    exact absurd hissues.symm h'.2
  | dir name children, dir name' children', h, h' =>
    obtain rfl : name = name' := hname
    have hchildren : ∀ place, issuesAtAll children place = issuesAtAll children' place := by
      intro place
      simpa only [issuesAt, if_true] using hheld (name :: place)
    have htidy := tidyAll_eq_of_same h.2.2 h'.2.2 hchildren fun child hchild child' hchild' =>
      WellFormedAll.tidy_eq h.2.2 child hchild (h'.2.2.of_mem hchild')
    rw [tidy, tidy, ← tidyAll, ← tidyAll, htidy]

theorem WellFormedAll.tidy_eq {trees : List Tree} (h : WellFormedAll trees) :
    ∀ tree ∈ trees, ∀ {tree' : Tree}, tree'.WellFormed → Same tree tree' →
      tree.tidy = tree'.tidy := by
  match trees, h with
  | [], h => simp
  | tree :: rest, h =>
    refine List.forall_mem_cons.mpr ⟨fun {tree'} h' hsame => ?_, WellFormedAll.tidy_eq h.2.2⟩
    exact WellFormed.tidy_eq h.1 h' hsame

end

/-- What well-formed trees hold is all that is seen of them when they are tidy. -/
theorem tidyAll_eq_of_held {trees trees' : List Tree} (h : WellFormedAll trees)
    (h' : WellFormedAll trees')
    (hheld : ∀ place, issuesAtAll trees place = issuesAtAll trees' place) :
    tidyAll trees = tidyAll trees' :=
  tidyAll_eq_of_same h h' hheld fun tree htree _ htree' => h.tidy_eq tree htree (h'.of_mem htree')

end Tree

namespace Report

/-! ### Whatever order is taken -/

/-- The rows for the issues of a report, with the children of directories gone through in any
order. -/
inductive MayShow (finish : Finish) (report : Report) : List String → Prop
  | nothing (hnone : report.issues = []) :
      MayShow finish report [Part.ok.show finish "✓ No inline suppressions found"]
  | tree {trees order : List Tree} {rows : List Row} (hsome : report.issues ≠ [])
      (htrees : Tree.ofIssues? report.issues = some trees) (horder : Tree.SortOf order trees)
      (hrows : Tree.Prints [] order rows) :
      MayShow finish report
        (Part.title.show finish (Path.base report.root) :: rows.map (Row.text finish))

/-- The text of a report with counts by category and with rows for the issues. -/
def textWith (finish : Finish) (report : Report) (counts : List (Category × Nat))
    (issueRows : List String) : String :=
  String.join ((boxRows finish (Path.base report.root) report.statsLine (familyLine counts)
    ++ issueRows ++ report.skippedRows finish).map (· ++ "\n"))

/-- A text that may be written for a report. -/
def MayWrite (finish : Finish) (report : Report) (text : String) : Prop :=
  ∃ counts issueRows, counts.Perm report.countByCategory ∧ report.MayShow finish issueRows ∧
    text = report.textWith finish counts issueRows

/-- Reports that say the same, except for the order of the issues of different files. -/
structure SameUpToOrder (report other : Report) : Prop where
  root : report.root = other.root
  diffRef : report.diffRef = other.diffRef
  filesScanned : report.filesScanned = other.filesScanned
  skipped : report.skipped = other.skipped
  issues : report.issues.Perm other.issues
  inOrder : ∀ path, report.issues.filter (·.path = path) = other.issues.filter (·.path = path)

/-! ### The box -/

theorem nodup_countByCategory (report : Report) : (report.countByCategory.map (·.1)).Nodup := by
  have hkeys : report.countByCategory.map (·.1) = (report.issues.map (·.category)).eraseDups := by
    simp [countByCategory, Function.comp_def]
  rw [hkeys]
  exact nodup_eraseDups _

theorem familyLine_perm {counts counts' : List (Category × Nat)} (hperm : counts.Perm counts')
    (h : (counts.map (·.1)).Nodup) : familyLine counts = familyLine counts' := by
  simp only [familyLine, lookup_perm hperm h]

theorem textWith_of_perm {finish : Finish} {report : Report}
    {counts : List (Category × Nat)} (hcounts : counts.Perm report.countByCategory)
    (issueRows : List String) : report.textWith finish counts issueRows =
      report.textWith finish report.countByCategory issueRows := by
  rw [textWith, textWith, familyLine_perm hcounts.symm report.nodup_countByCategory]

namespace SameUpToOrder

variable {report other : Report}

theorem countByCategory (h : SameUpToOrder report other) :
    report.countByCategory.Perm other.countByCategory := by
  have hcategories := h.issues.map (·.category)
  rw [Report.countByCategory, Report.countByCategory]
  simp only [hcategories.count_eq]
  exact (eraseDups_perm hcategories).map _

theorem statsLine (h : SameUpToOrder report other) : report.statsLine = other.statsLine := by
  have hfiles : report.filesWithIssues = other.filesWithIssues :=
    (eraseDups_perm (h.issues.map Issue.path)).length_eq
  rw [Report.statsLine, Report.statsLine, h.diffRef, h.filesScanned, h.issues.length_eq, hfiles]

theorem textWith_eq (h : SameUpToOrder report other) (finish : Finish) (issueRows : List String) :
    report.textWith finish report.countByCategory issueRows =
      other.textWith finish other.countByCategory issueRows := by
  rw [textWith, textWith, h.root, h.statsLine, skippedRows, skippedRows, h.skipped,
    familyLine_perm h.countByCategory report.nodup_countByCategory]

end SameUpToOrder

/-! ### The tree -/

/-- The rows for the issues of a report with the given trees. -/
def issueRows (finish : Finish) (report : Report) (trees : List Tree) : List String :=
  if report.issues = [] then [Part.ok.show finish "✓ No inline suppressions found"]
  else Part.title.show finish (Path.base report.root)
    :: (Tree.rowsAll [] (Tree.tidyAll trees)).map (Row.text finish)

section

variable {report : Report} {trees : List Tree} (htrees : Tree.ofIssues? report.issues = some trees)

include htrees

theorem text?_eq (finish : Finish) : report.text? finish = some
    (report.textWith finish report.countByCategory (report.issueRows finish trees)) := by
  have hforest : forestRows finish "" (Tree.tidyAll trees) =
      (Tree.rowsAll [] (Tree.tidyAll trees)).map (Row.text finish) := forestRows_eq finish [] _
  rw [text?, rows?, htrees, Option.map_some, hforest, issueRows, textWith]
  by_cases hnone : report.issues = [] <;> simp [hnone]

theorem mayShow_iff (hwf : Tree.WellFormedAll trees) {finish : Finish} {rows : List String} :
    report.MayShow finish rows ↔ rows = report.issueRows finish trees := by
  rw [issueRows]
  constructor
  · rintro (hnone | ⟨hsome, htrees', horder, hrows⟩)
    · rw [if_pos hnone]
    · obtain rfl := Option.some.inj (htrees.symm.trans htrees')
      rw [if_neg hsome, (Tree.exists_prints_iff hwf [] _).mp ⟨_, horder, hrows⟩]
  · rintro rfl
    split
    · exact .nothing ‹_›
    · obtain ⟨order, horder, hrows⟩ := (Tree.exists_prints_iff hwf [] _).mpr rfl
      exact .tree ‹_› htrees horder hrows

theorem mayWrite_iff (hwf : Tree.WellFormedAll trees) {finish : Finish} {text : String} :
    report.MayWrite finish text ↔
      text = report.textWith finish report.countByCategory (report.issueRows finish trees) := by
  constructor
  · rintro ⟨counts, rows, hcounts, hrows, rfl⟩
    rw [textWith_of_perm hcounts, (mayShow_iff htrees hwf).mp hrows]
  · rintro rfl
    exact ⟨_, _, .refl _, (mayShow_iff htrees hwf).mpr rfl, rfl⟩

end

namespace SameUpToOrder

variable {report other : Report}

theorem pathsApart (h : SameUpToOrder report other) (hapart : PathsApart report.issues) :
    PathsApart other.issues := hapart.mono fun _ hissue => h.issues.mem_iff.mpr hissue

theorem issuesAt (h : SameUpToOrder report other) (place : List String) :
    (report.issues.filter fun issue => Path.components issue.path = place) =
      other.issues.filter fun issue => Path.components issue.path = place := by
  have hsplit : ∀ issues : List Issue,
      (issues.filter fun issue => Path.components issue.path = place) =
        (issues.filter (·.path = join "/" place)).filter
          fun issue => Path.components issue.path = place := by
    intro issues
    rw [List.filter_filter]
    refine List.filter_congr fun issue _ => ?_
    rw [← Bool.decide_and, decide_eq_decide, iff_self_and]
    rintro rfl
    exact (Path.join_components issue.path).symm
  rw [hsplit, hsplit other.issues, h.inOrder]

theorem issueRows_eq (h : SameUpToOrder report other) {trees trees' : List Tree}
    (hholds : Tree.Holds report.issues trees) (hholds' : Tree.Holds other.issues trees')
    (finish : Finish) : report.issueRows finish trees = other.issueRows finish trees' := by
  have htidy : Tree.tidyAll trees = Tree.tidyAll trees' :=
    Tree.tidyAll_eq_of_held hholds.wellFormed hholds'.wellFormed fun place => by
      rw [hholds.issuesAt_eq, hholds'.issuesAt_eq, h.issuesAt]
  have hnone : report.issues = [] ↔ other.issues = [] := by
    rw [← List.length_eq_zero_iff, ← List.length_eq_zero_iff, h.issues.length_eq]
  simp only [issueRows, htidy, hnone, h.root]

end SameUpToOrder

/-- If no path of an issue runs through another one, reports that are the same up to order have one
and the same text, whatever order the counts and the directories are gone through in. -/
theorem text_independent_of_order {report other : Report} (h : SameUpToOrder report other)
    (hapart : PathsApart report.issues) (finish : Finish) :
    ∃ text, report.text? finish = some text ∧ other.text? finish = some text ∧
      ∀ written, (report.MayWrite finish written ↔ written = text) ∧
        (other.MayWrite finish written ↔ written = text) := by
  obtain ⟨trees, htrees, hholds⟩ := Tree.ofIssues?_holds hapart
  obtain ⟨trees', htrees', hholds'⟩ := Tree.ofIssues?_holds (h.pathsApart hapart)
  have hsame : report.textWith finish report.countByCategory (report.issueRows finish trees) =
      other.textWith finish other.countByCategory (other.issueRows finish trees') := by
    rw [h.textWith_eq, h.issueRows_eq hholds hholds']
  have hother := text?_eq htrees' finish
  rw [← hsame] at hother
  refine ⟨_, text?_eq htrees finish, hother, fun written => ?_⟩
  rw [mayWrite_iff htrees hholds.wellFormed, mayWrite_iff htrees' hholds'.wellFormed, hsame]
  exact ⟨.rfl, .rfl⟩

/-- Two issues of one file, with that of another file between them. -/
def interleavedReport : Report :=
  { root := "/project"
    issues := [issueIn "a.py", issueIn "b/c.py", { issueIn "a.py" with line := 2 }] }

/-- The same issues file by file. -/
def groupedReport : Report :=
  { root := "/project"
    issues := [issueIn "b/c.py", issueIn "a.py", { issueIn "a.py" with line := 2 }] }

theorem grouped_sameUpToOrder : SameUpToOrder interleavedReport groupedReport where
  root := rfl
  diffRef := rfl
  filesScanned := rfl
  skipped := rfl
  issues := .swap _ _ _
  inOrder path := by
    by_cases hpath : path = "a.py"
    · subst hpath
      decide +kernel
    · simp [interleavedReport, groupedReport, issueIn, List.filter_cons, Ne.symm hpath]

theorem interleaved_text_grouped : ∃ text, interleavedReport.text? .bare = some text ∧
    ∀ written, groupedReport.MayWrite .bare written ↔ written = text := by
  obtain ⟨text, htext, -, hwritten⟩ :=
    text_independent_of_order grouped_sameUpToOrder (by decide) .bare
  exact ⟨text, htext, fun written => (hwritten written).2⟩

end Report

end InlineAudit
