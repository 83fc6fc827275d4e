import InlineAudit.Proofs.Report.Outline

/-!
Issues whose paths run through each other. What a place of the tree becomes is settled by the
earliest issue at or below it: a file if that issue has the place for its path, a directory if its
path goes on. From then on an issue further below has no way through the file, and an issue at the
place of the directory is not kept. The invariant `Built` says this of all places after every
insertion, so that the order of the whole list tells whether the tree can be built and what it
lacks.
-/

namespace InlineAudit

/-- The earliest issue at or below a place. -/
def firstWithin (issues : List Issue) (place : List String) : Option Issue :=
  issues.find? fun issue => place <+: Path.components issue.path

/-- The earliest issue at or below a place is at the place. -/
def BecomesFile (issues : List Issue) (place : List String) : Prop :=
  ∃ first, firstWithin issues place = some first ∧ Path.components first.path = place

/-- The earliest issue at or below a place is further below. -/
def BecomesDirectory (issues : List Issue) (place : List String) : Prop :=
  ∃ first, firstWithin issues place = some first ∧
    Path.Extends place (Path.components first.path)

/-- When the turn of one of the issues comes, its path runs through a file. -/
def Obstructed (issues : List Issue) : Prop :=
  ∃ earlier issue later front, issues = earlier ++ issue :: later ∧
    Path.Extends front (Path.components issue.path) ∧ BecomesFile earlier front

/-! ### The earliest issue -/

section

variable {issues : List Issue} {issue : Issue} {place : List String}

theorem firstWithin_eq_none_iff :
    firstWithin issues place = none ↔
      ∀ issue ∈ issues, ¬place <+: Path.components issue.path := by
  simp [firstWithin]

theorem firstWithin_concat (issues : List Issue) (issue : Issue) (place : List String) :
    firstWithin (issues ++ [issue]) place = (firstWithin issues place).or
      (if place <+: Path.components issue.path then some issue else none) := by
  rw [firstWithin, List.find?_append, List.find?_singleton]
  simp [firstWithin]

theorem prefix_of_firstWithin {first : Issue} (h : firstWithin issues place = some first) :
    place <+: Path.components first.path := by
  simpa using List.find?_some h

theorem exists_firstWithin (hissue : issue ∈ issues) (h : place <+: Path.components issue.path) :
    ∃ first, firstWithin issues place = some first := by
  rw [← Option.ne_none_iff_exists', Ne, firstWithin_eq_none_iff]
  exact fun hnone => hnone issue hissue h

/-- The earliest issue at or below a place is the earliest one at or below its own path. -/
theorem becomesFile_of_firstWithin {first : Issue} (h : firstWithin issues place = some first) :
    BecomesFile issues (Path.components first.path) := by
  have hplace := prefix_of_firstWithin h
  obtain ⟨-, earlier, later, hsplit, hearlier⟩ := List.find?_eq_some_iff_append.mp h
  refine ⟨first, List.find?_eq_some_iff_append.mpr ⟨by simp, earlier, later, hsplit, ?_⟩, rfl⟩
  intro other hother
  have hother' := hearlier other hother
  simp only [Bool.not_eq_true', decide_eq_false_iff_not] at hother' ⊢
  exact fun hbelow => hother' (hplace.trans hbelow)

/-- One more issue settles only the places where none was before. -/
theorem becomesFile_concat :
    BecomesFile (issues ++ [issue]) place ↔ BecomesFile issues place ∨
      firstWithin issues place = none ∧ Path.components issue.path = place := by
  rw [BecomesFile, BecomesFile, firstWithin_concat]
  cases hfirst : firstWithin issues place with
  | some first => simp
  | none =>
    constructor
    · rintro ⟨first, hfound, hpath⟩
      rw [Option.none_or] at hfound
      split at hfound
      · obtain rfl := Option.some.inj hfound
        exact Or.inr ⟨rfl, hpath⟩
      · cases hfound
    · rintro (⟨first, hfound, -⟩ | ⟨-, rfl⟩)
      · cases hfound
      · exact ⟨issue, by simp, rfl⟩

theorem BecomesFile.not_directory (h : BecomesFile issues place) :
    ¬BecomesDirectory issues place := by
  obtain ⟨first, hfirst, hpath⟩ := h
  rintro ⟨other, hother, hextends⟩
  obtain rfl := Option.some.inj (hfirst.symm.trans hother)
  exact hextends.2 hpath.symm

/-- A place where there is an issue, or below which there is one, becomes one or the other. -/
theorem becomes_of_firstWithin {first : Issue} (h : firstWithin issues place = some first) :
    BecomesFile issues place ∨ BecomesDirectory issues place := by
  by_cases hpath : Path.components first.path = place
  · exact Or.inl ⟨first, h, hpath⟩
  · exact Or.inr ⟨first, h, prefix_of_firstWithin h, Ne.symm hpath⟩

theorem not_becomesFile_of_none (h : firstWithin issues place = none) :
    ¬BecomesFile issues place := by
  rintro ⟨first, hfirst, -⟩
  cases h.symm.trans hfirst

/-- An issue at the place of a directory makes no file. -/
theorem becomesFile_concat_of_directory
    (h : BecomesDirectory issues (Path.components issue.path)) :
    BecomesFile (issues ++ [issue]) place ↔ BecomesFile issues place := by
  rw [becomesFile_concat, or_iff_left]
  rintro ⟨hnone, rfl⟩
  obtain ⟨first, hfirst, -⟩ := h
  cases hnone.symm.trans hfirst

theorem obstructed_concat :
    Obstructed (issues ++ [issue]) ↔ Obstructed issues ∨
      ∃ front, Path.Extends front (Path.components issue.path) ∧ BecomesFile issues front := by
  constructor
  · rintro ⟨earlier, other, later, front, hsplit, hextends, hfile⟩
    rcases List.eq_nil_or_concat later with rfl | ⟨later, last, rfl⟩
    · obtain ⟨rfl, hlast⟩ := List.append_inj' hsplit rfl
      obtain rfl : issue = other := by simpa using hlast
      exact Or.inr ⟨front, hextends, hfile⟩
    · rw [List.concat_eq_append, ← List.cons_append, ← List.append_assoc] at hsplit
      exact Or.inl ⟨earlier, other, later, front, (List.append_inj' hsplit rfl).1, hextends, hfile⟩
  · rintro (⟨earlier, other, later, front, rfl, hextends, hfile⟩ | ⟨front, hextends, hfile⟩)
    · exact ⟨earlier, other, later ++ [issue], front, by simp, hextends, hfile⟩
    · exact ⟨issues, issue, [], front, rfl, hextends, hfile⟩

end

namespace Tree

/-! ### Putting in an issue at the place of a directory -/

mutual

/-- Nothing changes. -/
theorem insertInto_directory (issue : Issue) {tree : Tree} {rest : List String}
    (h : tree.WellFormed) (hdir : IsDirectory tree.issuesAt (tree.name :: rest)) :
    insertInto issue rest tree = some tree := by
  match tree, rest, h with
  | file name issues, rest, h =>
    obtain ⟨behind, hbehind, hfile⟩ := hdir
    refine absurd ?_ hfile
    rw [issuesAt, if_neg]
    simp [hbehind]
  | dir name children, [], h => rfl
  | dir name children, next :: rest, h =>
    rw [name_dir, isDirectory_dir] at hdir
    rw [insertInto, insertAmong_directory issue h.2.2 hdir]
    rfl

theorem insertAmong_directory (issue : Issue) {trees : List Tree} {first : String}
    {rest : List String} (h : WellFormedAll trees)
    (hdir : IsDirectory (issuesAtAll trees) (first :: rest)) :
    insertAmong issue first rest trees = some trees := by
  match trees, h with
  | [], h =>
    obtain ⟨behind, -, hfile⟩ := hdir
    exact absurd rfl hfile
  | tree :: more, h =>
    rw [insertAmong]
    split
    · rename_i hname
      subst hname
      rw [IsDirectory.congr (issuesAtAll_cons_self h.2.1)] at hdir
      rw [insertInto_directory issue h.1 hdir]
      rfl
    · rename_i hname
      rw [IsDirectory.congr (issuesAtAll_cons_of_ne hname)] at hdir
      rw [insertAmong_directory issue h.2.2 hdir]
      rfl

end

/-- Trees as they are after issues were put in: a place that became a file holds all issues with its
path, no other place holds any, and no file stands on the way of any issue. -/
structure Built (issues : List Issue) (trees : List Tree) : Prop where
  wellFormed : WellFormedAll trees
  file : ∀ place, BecomesFile issues place → issuesAtAll trees place =
    issues.filter fun issue => Path.components issue.path = place
  noFile : ∀ place, ¬BecomesFile issues place → issuesAtAll trees place = []
  wayOpen : ∀ issue ∈ issues, ∀ front, Path.Extends front (Path.components issue.path) →
    ¬BecomesFile issues front

namespace Built

variable {issues : List Issue} {trees trees' : List Tree} {issue : Issue} {place : List String}

theorem issuesAt_ne_nil_iff (h : Built issues trees) :
    issuesAtAll trees place ≠ [] ↔ BecomesFile issues place := by
  constructor
  · exact fun hne => by_contra fun hfile => hne (h.noFile place hfile)
  · intro hfile
    rw [h.file place hfile]
    obtain ⟨first, hfirst, hpath⟩ := hfile
    have hmem := List.mem_of_find?_eq_some hfirst
    exact List.ne_nil_of_mem (List.mem_filter.mpr ⟨hmem, decide_eq_true hpath⟩)

theorem passesFile_iff (h : Built issues trees) :
    PassesFile (issuesAtAll trees) place ↔
      ∃ front, Path.Extends front place ∧ BecomesFile issues front := by
  constructor
  · rintro ⟨front, behind, rfl, hbehind, hfile⟩
    exact ⟨front, Path.extends_append_self hbehind, h.issuesAt_ne_nil_iff.mp hfile⟩
  · rintro ⟨front, ⟨⟨behind, rfl⟩, hne⟩, hfile⟩
    refine ⟨front, behind, rfl, ?_, h.issuesAt_ne_nil_iff.mpr hfile⟩
    rintro rfl
    exact hne (List.append_nil front).symm

theorem isDirectory_iff (h : Built issues trees) :
    IsDirectory (issuesAtAll trees) place ↔ BecomesDirectory issues place := by
  constructor
  · rintro ⟨behind, hbehind, hfile⟩
    obtain ⟨below, hbelow, hpath⟩ := h.issuesAt_ne_nil_iff.mp hfile
    have hmem : below ∈ issues := List.mem_of_find?_eq_some hbelow
    have hextends : Path.Extends place (Path.components below.path) := by
      rw [hpath]
      exact Path.extends_append_self hbehind
    obtain ⟨first, hfirst⟩ := exists_firstWithin hmem hextends.1
    exact (becomes_of_firstWithin hfirst).resolve_left (h.wayOpen below hmem place hextends)
  · rintro ⟨first, hfirst, ⟨behind, hsplit⟩, hne⟩
    refine ⟨behind, ?_, ?_⟩
    · rintro rfl
      exact hne (by rw [← hsplit, List.append_nil])
    · rw [hsplit]
      exact h.issuesAt_ne_nil_iff.mpr (becomesFile_of_firstWithin hfirst)

/-- An issue cannot be put in exactly if there is a file on its way. -/
theorem insertIssue_eq_none_iff (h : Built issues trees) :
    insertIssue trees issue = none ↔
      ∃ front, Path.Extends front (Path.components issue.path) ∧ BecomesFile issues front := by
  rw [← h.passesFile_iff, insertIssue]
  cases hpath : Path.components issue.path with
  | nil => exact absurd hpath (Path.components_ne_nil _)
  | cons first rest => exact insertAmong_eq_none_iff h.wellFormed

/-- What the trees hold after one more issue: the issue as well, unless its place is a directory. -/
theorem insertIssue_holds (h : Built issues trees)
    (hinsert : insertIssue trees issue = some trees') :
    WellFormedAll trees' ∧
      (BecomesDirectory issues (Path.components issue.path) →
        ∀ place, issuesAtAll trees' place = issuesAtAll trees place) ∧
      (¬BecomesDirectory issues (Path.components issue.path) →
        Adds issue (Path.components issue.path) (issuesAtAll trees) (issuesAtAll trees')) := by
  rw [← h.isDirectory_iff]
  rw [insertIssue] at hinsert
  cases hpath : Path.components issue.path with
  | nil => exact absurd hpath (Path.components_ne_nil _)
  | cons first rest =>
    rw [hpath] at hinsert
    replace hinsert : insertAmong issue first rest trees = some trees' := hinsert
    have hparts : ∀ part ∈ first :: rest, '/' ∉ part.toList := fun part hpart =>
      Path.slash_not_mem_of_mem_components (hpath ▸ hpart)
    refine ⟨(insertAmong_wellFormed h.wellFormed hparts hinsert).1, ?_, ?_⟩
    · intro hdir place
      rw [insertAmong_directory issue h.wellFormed hdir] at hinsert
      rw [Option.some.inj hinsert]
    · exact insertAmong_adds h.wellFormed hinsert

theorem wayOpen_concat (h : Built issues trees) (hinsert : insertIssue trees issue = some trees') :
    ∀ other ∈ issues ++ [issue], ∀ front, Path.Extends front (Path.components other.path) →
      ¬BecomesFile (issues ++ [issue]) front := by
  intro other hother front hextends hfile
  rcases becomesFile_concat.mp hfile with hbefore | ⟨hnone, rfl⟩
  · rcases List.mem_append.mp hother with hother | hother
    · exact h.wayOpen other hother front hextends hbefore
    · obtain rfl := List.mem_singleton.mp hother
      have hnone := h.insertIssue_eq_none_iff.mpr ⟨front, hextends, hbefore⟩
      cases hinsert.symm.trans hnone
  · rcases List.mem_append.mp hother with hother | hother
    · exact firstWithin_eq_none_iff.mp hnone other hother hextends.1
    · obtain rfl := List.mem_singleton.mp hother
      exact hextends.2 rfl

/-- Every insertion keeps the invariant. -/
theorem insertIssue (h : Built issues trees) (hinsert : insertIssue trees issue = some trees') :
    Built (issues ++ [issue]) trees' := by
  obtain ⟨hwf, hsame, hadds⟩ := h.insertIssue_holds hinsert
  by_cases hdir : BecomesDirectory issues (Path.components issue.path)
  · -- the issue is lost, and no place changes
    refine ⟨hwf, fun place hfile => ?_, fun place hfile => ?_, h.wayOpen_concat hinsert⟩
    · rw [becomesFile_concat_of_directory hdir] at hfile
      have hne : place ≠ Path.components issue.path := by
        rintro rfl
        exact hfile.not_directory hdir
      rw [hsame hdir, h.file place hfile, filter_place_concat, if_neg hne, List.append_nil]
    · rw [becomesFile_concat_of_directory hdir] at hfile
      rw [hsame hdir, h.noFile place hfile]
  · refine ⟨hwf, fun place hfile => ?_, fun place hfile => ?_, h.wayOpen_concat hinsert⟩
    · -- a place that becomes a file only now had no issue before
      have hheld : issuesAtAll trees place =
          issues.filter fun issue => Path.components issue.path = place := by
        rcases becomesFile_concat.mp hfile with hfile | ⟨hnone, rfl⟩
        · exact h.file place hfile
        · rw [h.noFile _ (not_becomesFile_of_none hnone), eq_comm, List.filter_eq_nil_iff]
          intro other hother hpath
          refine firstWithin_eq_none_iff.mp hnone other hother ?_
          rw [of_decide_eq_true hpath]
      rw [hadds hdir, hheld, filter_place_concat]
    · rw [becomesFile_concat, not_or, not_and] at hfile
      have hne : place ≠ Path.components issue.path := by
        rintro rfl
        cases hfirst : firstWithin issues (Path.components issue.path) with
        | none => exact hfile.2 hfirst rfl
        | some first => exact (becomes_of_firstWithin hfirst).elim hfile.1 hdir
      rw [hadds hdir, h.noFile place hfile.1, if_neg hne, List.append_nil]

end Built

/-- So the invariant holds of every tree that can be built. -/
theorem ofIssues?_built {issues : List Issue} {trees : List Tree}
    (h : ofIssues? issues = some trees) : Built issues trees := by
  induction issues using List.reverseRecOn generalizing trees with
  | nil =>
    obtain rfl := Option.some.inj h
    exact ⟨trivial, fun _ hfile => absurd hfile (not_becomesFile_of_none rfl), fun _ _ => rfl,
      by simp⟩
  | append_singleton issues issue ih =>
    rw [ofIssues?_concat, Option.bind_eq_some_iff] at h
    obtain ⟨before, hbefore, hinsert⟩ := h
    exact (ih hbefore).insertIssue hinsert

theorem ofIssues?_eq_none_iff (issues : List Issue) :
    ofIssues? issues = none ↔ Obstructed issues := by
  induction issues using List.reverseRecOn with
  | nil =>
    refine iff_of_false (Option.some_ne_none _) ?_
    rintro ⟨earlier, issue, later, front, hsplit, -⟩
    simp at hsplit
  | append_singleton issues issue ih =>
    rw [ofIssues?_concat, obstructed_concat, ← ih]
    cases hbuilt : ofIssues? issues with
    | none => simp
    | some trees =>
      rw [Option.bind_some, (ofIssues?_built hbuilt).insertIssue_eq_none_iff]
      simp

namespace Built

variable {issues : List Issue} {trees : List Tree}

/-- The leaves are the places that became files, each with all issues there. -/
theorem mem_leavesAll_iff (h : Built issues trees) {place : List String} {found : List Issue} :
    (place, found) ∈ leavesAll trees ↔ BecomesFile issues place ∧
      found = issues.filter fun issue => Path.components issue.path = place := by
  rw [Tree.mem_leavesAll_iff h.wellFormed]
  constructor
  · rintro ⟨rfl, hne⟩
    have hfile := h.issuesAt_ne_nil_iff.mp hne
    exact ⟨hfile, h.file place hfile⟩
  · rintro ⟨hfile, rfl⟩
    exact ⟨(h.file place hfile).symm, h.file place hfile ▸ h.issuesAt_ne_nil_iff.mpr hfile⟩

/-- An issue is lost exactly if its place became a directory. -/
theorem lost_iff (h : Built issues trees) {issue : Issue} (hissue : issue ∈ issues) :
    (∀ leaf ∈ leavesAll trees, issue ∉ leaf.2) ↔
      BecomesDirectory issues (Path.components issue.path) := by
  constructor
  · intro hlost
    obtain ⟨first, hfirst⟩ := exists_firstWithin hissue List.prefix_rfl
    refine (becomes_of_firstWithin hfirst).resolve_left fun hfile => ?_
    refine hlost _ (h.mem_leavesAll_iff.mpr ⟨hfile, rfl⟩) ?_
    simpa using hissue
  · rintro hdir ⟨place, found⟩ hleaf hfound
    obtain ⟨hfile, rfl⟩ := h.mem_leavesAll_iff.mp hleaf
    obtain ⟨-, hpath⟩ := List.mem_filter.mp hfound
    rw [← of_decide_eq_true hpath] at hfile
    exact hfile.not_directory hdir

end Built

end Tree

/-- The tree of issues cannot be built exactly if the path of one runs through what is a file by
then. What is missing from a tree that was built are the issues at directories. -/
theorem tree_obstructed_or_built (issues : List Issue) :
    (Tree.ofIssues? issues = none ↔ Obstructed issues) ∧
      ∀ trees, Tree.ofIssues? issues = some trees → ∀ issue ∈ issues,
        (∀ leaf ∈ Tree.leavesAll trees, issue ∉ leaf.2) ↔
          (∃ other ∈ issues, Path.IsAbove issue.path other.path) ∧
            BecomesDirectory issues (Path.components issue.path) := by
  refine ⟨Tree.ofIssues?_eq_none_iff issues, fun trees hbuilt issue hissue => ?_⟩
  rw [(Tree.ofIssues?_built hbuilt).lost_iff hissue]
  refine ⟨fun hdir => ⟨?_, hdir⟩, And.right⟩
  obtain ⟨first, hfirst, hextends⟩ := hdir
  exact ⟨first, List.mem_of_find?_eq_some hfirst, hextends⟩

/-- The second issue is lost in a tree that can be built; the other way round there is none. -/
theorem runThrough_lost :
    Tree.ofIssues? [issueIn "a", issueIn "a/b.py"] = none ∧
      ∃ trees, Tree.ofIssues? [issueIn "a/b.py", issueIn "a"] = some trees ∧
        ∀ leaf ∈ Tree.leavesAll trees, issueIn "a" ∉ leaf.2 := by
  have hbuilt : (Tree.ofIssues? [issueIn "a/b.py", issueIn "a"]).isSome = true := by
    decide +kernel
  obtain ⟨trees, htrees⟩ := Option.isSome_iff_exists.mp hbuilt
  refine ⟨?_, trees, htrees, ?_⟩
  · refine (tree_obstructed_or_built _).1.mpr ?_
    exact ⟨[issueIn "a"], issueIn "a/b.py", [], ["a"], rfl, by decide +kernel,
      issueIn "a", by decide +kernel, by decide +kernel⟩
  · refine ((tree_obstructed_or_built _).2 trees htrees _ (by simp)).mpr ⟨?_, ?_⟩
    · exact ⟨issueIn "a/b.py", by simp, by decide +kernel⟩
    · exact ⟨issueIn "a/b.py", by decide +kernel, by decide +kernel⟩

end InlineAudit
