import InlineAudit.Proofs.Path
import InlineAudit.Report.Tree

/-!
Building the tree of issues. `issuesAt` reads off what a tree holds at a path. An issue that is put
in appears at its path and nowhere else, unless a file stands on its way or a directory at its end;
so a tree of issues whose paths are apart holds at each path the issues with that path, in order.
-/

namespace InlineAudit

namespace Tree

mutual

/-- The issues of the file with the given components. -/
def issuesAt : Tree → List String → List Issue
  | file name issues, place => if place = [name] then issues else []
  | dir _ _, [] => []
  | dir name children, first :: rest => if first = name then issuesAtAll children rest else []

def issuesAtAll : List Tree → List String → List Issue
  | [], _ => []
  | tree :: rest, place => tree.issuesAt place ++ issuesAtAll rest place

end

mutual

/-- Names are single components, siblings have different names, and nothing is empty. -/
def WellFormed : Tree → Prop
  | file name issues => '/' ∉ name.toList ∧ issues ≠ []
  | dir name children => '/' ∉ name.toList ∧ children ≠ [] ∧ WellFormedAll children

def WellFormedAll : List Tree → Prop
  | [] => True
  | tree :: rest =>
    tree.WellFormed ∧ (∀ other ∈ rest, other.name ≠ tree.name) ∧ WellFormedAll rest

end

@[simp]
theorem name_file (name : String) (issues : List Issue) : (file name issues).name = name := rfl

@[simp]
theorem name_dir (name : String) (children : List Tree) : (dir name children).name = name := rfl

theorem WellFormedAll.of_mem {trees : List Tree} (h : WellFormedAll trees) {tree : Tree}
    (ht : tree ∈ trees) : tree.WellFormed := by
  induction trees with
  | nil => cases ht
  | cons first rest ih =>
    rcases List.mem_cons.mp ht with rfl | ht
    · exact h.1
    · exact ih h.2.2 ht

/-- What a tree holds has its name in front. -/
theorem issuesAt_eq_nil {tree : Tree} {place : List String} (h : place.head? ≠ some tree.name) :
    tree.issuesAt place = [] := by
  cases tree with
  | file name issues =>
    rw [issuesAt, if_neg]
    rintro rfl
    exact h rfl
  | dir name children =>
    cases place with
    | nil => rfl
    | cons first rest =>
      rw [issuesAt, if_neg]
      rintro rfl
      exact h rfl

theorem issuesAtAll_eq_nil {trees : List Tree} {place : List String}
    (h : ∀ tree ∈ trees, place.head? ≠ some tree.name) : issuesAtAll trees place = [] := by
  induction trees with
  | nil => rfl
  | cons tree rest ih =>
    rw [issuesAtAll, issuesAt_eq_nil (h tree List.mem_cons_self),
      ih fun other hother => h other (List.mem_cons_of_mem _ hother), List.nil_append]

/-! ### Nothing is empty -/

mutual

theorem WellFormed.exists_issuesAt {tree : Tree} (h : tree.WellFormed) :
    ∃ place, tree.issuesAt (tree.name :: place) ≠ [] := by
  match tree, h with
  | file name issues, h => exact ⟨[], by simpa [issuesAt] using h.2⟩
  | dir name children, h =>
    obtain ⟨place, hplace⟩ := WellFormedAll.exists_issuesAt h.2.2 h.2.1
    exact ⟨place, by simpa [issuesAt] using hplace⟩

theorem WellFormedAll.exists_issuesAt {trees : List Tree} (h : WellFormedAll trees)
    (hne : trees ≠ []) : ∃ place, issuesAtAll trees place ≠ [] := by
  match trees, h with
  | [], h => exact absurd rfl hne
  | tree :: rest, h =>
    obtain ⟨place, hplace⟩ := h.1.exists_issuesAt
    exact ⟨tree.name :: place, by simp [issuesAtAll, hplace]⟩

end

/-- A path runs through a file: the file's components are the first, but not all, of the path. -/
def PassesFile (held : List String → List Issue) (place : List String) : Prop :=
  ∃ front rest, place = front ++ rest ∧ rest ≠ [] ∧ held front ≠ []

/-- A path ends at a directory: there is a file below. -/
def IsDirectory (held : List String → List Issue) (place : List String) : Prop :=
  ∃ rest, rest ≠ [] ∧ held (place ++ rest) ≠ []

/-- What is held after an issue was put in at a path. -/
def Adds (issue : Issue) (path : List String) (before after : List String → List Issue) : Prop :=
  ∀ place, after place = before place ++ if place = path then [issue] else []

/-! ### A new branch -/

theorem branch_name (issue : Issue) (first : String) (rest : List String) :
    (branch issue first rest).name = first := by
  cases rest <;> rfl

theorem branch_wellFormed (issue : Issue) {first : String} {rest : List String}
    (h : ∀ part ∈ first :: rest, '/' ∉ part.toList) : (branch issue first rest).WellFormed := by
  induction rest generalizing first with
  | nil => exact ⟨h first List.mem_cons_self, by simp⟩
  | cons next rest ih =>
    refine ⟨h first List.mem_cons_self, by simp, ?_, by simp, trivial⟩
    exact ih fun part hpart => h part (List.mem_cons_of_mem _ hpart)

theorem branch_issuesAt (issue : Issue) (first : String) (rest place : List String) :
    (branch issue first rest).issuesAt place = if place = first :: rest then [issue] else [] := by
  induction rest generalizing first place with
  | nil => rfl
  | cons next rest ih =>
    cases place with
    | nil => simp [branch, issuesAt]
    | cons part place =>
      by_cases hpart : part = first <;> simp [branch, issuesAt, issuesAtAll, ih, hpart]

/-! ### Where to look -/

theorem PassesFile.congr {held held' : List String → List Issue} {first : String}
    {rest : List String} (hnil : held [] = held' [])
    (h : ∀ place, held (first :: place) = held' (first :: place)) :
    PassesFile held (first :: rest) ↔ PassesFile held' (first :: rest) := by
  refine exists_congr fun front => exists_congr fun behind => and_congr_right fun hsplit => ?_
  cases front with
  | nil => rw [hnil]
  | cons part front =>
    obtain rfl : first = part := (List.cons.inj hsplit).1
    rw [h]

theorem IsDirectory.congr {held held' : List String → List Issue} {first : String}
    {rest : List String} (h : ∀ place, held (first :: place) = held' (first :: place)) :
    IsDirectory held (first :: rest) ↔ IsDirectory held' (first :: rest) := by
  simp only [IsDirectory, List.cons_append, h]

theorem passesFile_dir (name : String) (children : List Tree) (rest : List String) :
    PassesFile (dir name children).issuesAt (name :: rest) ↔
      PassesFile (issuesAtAll children) rest := by
  constructor
  · rintro ⟨front, behind, hsplit, hbehind, hfile⟩
    cases front with
    | nil => simp [issuesAt] at hfile
    | cons part front =>
      obtain ⟨rfl, rfl⟩ := List.cons.inj hsplit
      exact ⟨front, behind, rfl, hbehind, by simpa [issuesAt] using hfile⟩
  · rintro ⟨front, behind, rfl, hbehind, hfile⟩
    exact ⟨name :: front, behind, rfl, hbehind, by simpa [issuesAt] using hfile⟩

theorem isDirectory_dir (name : String) (children : List Tree) (rest : List String) :
    IsDirectory (dir name children).issuesAt (name :: rest) ↔
      IsDirectory (issuesAtAll children) rest := by
  simp [IsDirectory, issuesAt]

/-- Below the name of a tree, its siblings hold nothing. -/
theorem issuesAtAll_cons_self {tree : Tree} {more : List Tree}
    (h : ∀ other ∈ more, other.name ≠ tree.name) (place : List String) :
    issuesAtAll (tree :: more) (tree.name :: place) = tree.issuesAt (tree.name :: place) := by
  rw [issuesAtAll, issuesAtAll_eq_nil, List.append_nil]
  intro other hother hname
  exact h other hother (Option.some.inj hname).symm

theorem issuesAtAll_cons_of_ne {tree : Tree} {more : List Tree} {first : String}
    (h : tree.name ≠ first) (place : List String) :
    issuesAtAll (tree :: more) (first :: place) = issuesAtAll more (first :: place) := by
  rw [issuesAtAll, issuesAt_eq_nil, List.nil_append]
  exact fun hname => h (Option.some.inj hname).symm

theorem issuesAt_nil (tree : Tree) : tree.issuesAt [] = [] := issuesAt_eq_nil (by simp)

theorem issuesAtAll_nil (trees : List Tree) : issuesAtAll trees [] = [] :=
  issuesAtAll_eq_nil fun _ _ => by simp

/-! ### Putting in one issue -/

variable {issue : Issue}

mutual

/-- There is no result exactly if a file stands on the way. -/
theorem insertInto_eq_none_iff {tree : Tree} {rest : List String} (h : tree.WellFormed) :
    insertInto issue rest tree = none ↔ PassesFile tree.issuesAt (tree.name :: rest) := by
  match tree, rest, h with
  | file name issues, [], h =>
    refine iff_of_false (by simp [insertInto]) ?_
    rintro ⟨front, behind, hsplit, hbehind, hfile⟩
    cases front with
    | nil => exact hfile (issuesAt_nil _)
    | cons part front => simp_all
  | file name issues, next :: rest, h =>
    refine iff_of_true (by simp [insertInto]) ⟨[name], next :: rest, rfl, by simp, ?_⟩
    simpa [issuesAt] using h.2
  | dir name children, [], h =>
    refine iff_of_false (by simp [insertInto]) ?_
    rw [name_dir, passesFile_dir]
    rintro ⟨front, behind, hsplit, hbehind, -⟩
    exact hbehind (List.append_eq_nil_iff.mp hsplit.symm).2
  | dir name children, next :: rest, h =>
    rw [insertInto, Option.map_eq_none_iff, name_dir, passesFile_dir]
    exact insertAmong_eq_none_iff h.2.2

theorem insertAmong_eq_none_iff {trees : List Tree} {first : String} {rest : List String}
    (h : WellFormedAll trees) :
    insertAmong issue first rest trees = none ↔ PassesFile (issuesAtAll trees) (first :: rest) := by
  match trees, h with
  | [], h =>
    refine iff_of_false (by simp [insertAmong]) ?_
    rintro ⟨front, behind, -, -, hfile⟩
    exact hfile rfl
  | tree :: more, h =>
    rw [insertAmong]
    split
    · rename_i hname
      subst hname
      rw [Option.map_eq_none_iff, insertInto_eq_none_iff h.1]
      refine PassesFile.congr ?_ fun place => (issuesAtAll_cons_self h.2.1 place).symm
      rw [issuesAt_nil, issuesAtAll_nil]
    · rename_i hname
      rw [Option.map_eq_none_iff, insertAmong_eq_none_iff h.2.2]
      refine PassesFile.congr ?_ fun place => (issuesAtAll_cons_of_ne hname place).symm
      rw [issuesAtAll_nil, issuesAtAll_nil]

end

mutual

theorem insertInto_wellFormed {tree tree' : Tree} {rest : List String} (h : tree.WellFormed)
    (hrest : ∀ part ∈ rest, '/' ∉ part.toList) (hinsert : insertInto issue rest tree = some tree') :
    tree'.WellFormed ∧ tree'.name = tree.name := by
  match tree, rest, h with
  | file name issues, [], h =>
    obtain rfl : .file name (issues ++ [issue]) = tree' := by simpa [insertInto] using hinsert
    exact ⟨⟨h.1, by simp⟩, rfl⟩
  | file name issues, next :: rest, h => simp [insertInto] at hinsert
  | dir name children, [], h =>
    obtain rfl : .dir name children = tree' := by simpa [insertInto] using hinsert
    exact ⟨h, rfl⟩
  | dir name children, next :: rest, h =>
    rw [insertInto] at hinsert
    obtain ⟨children', hchildren, rfl⟩ := Option.map_eq_some_iff.mp hinsert
    obtain ⟨hall, hne, -⟩ := insertAmong_wellFormed h.2.2 hrest hchildren
    exact ⟨⟨h.1, hne, hall⟩, rfl⟩

theorem insertAmong_wellFormed {trees trees' : List Tree} {first : String} {rest : List String}
    (h : WellFormedAll trees) (hpath : ∀ part ∈ first :: rest, '/' ∉ part.toList)
    (hinsert : insertAmong issue first rest trees = some trees') :
    WellFormedAll trees' ∧ trees' ≠ [] ∧
      ∀ tree' ∈ trees', tree'.name = first ∨ ∃ tree ∈ trees, tree'.name = tree.name := by
  match trees, h with
  | [], h =>
    obtain rfl : [branch issue first rest] = trees' := by simpa [insertAmong] using hinsert
    refine ⟨⟨branch_wellFormed issue hpath, by simp, trivial⟩, by simp, ?_⟩
    simp [branch_name]
  | tree :: more, h =>
    rw [insertAmong] at hinsert
    split at hinsert
    · rename_i hname
      obtain ⟨tree', htree, rfl⟩ := Option.map_eq_some_iff.mp hinsert
      have hrest : ∀ part ∈ rest, '/' ∉ part.toList :=
        fun part hpart => hpath part (List.mem_cons_of_mem _ hpart)
      obtain ⟨hwell, hsame⟩ := insertInto_wellFormed h.1 hrest htree
      refine ⟨⟨hwell, hsame ▸ h.2.1, h.2.2⟩, by simp, fun other hother => ?_⟩
      rcases List.mem_cons.mp hother with rfl | hother
      · exact Or.inl (hsame.trans hname)
      · exact Or.inr ⟨other, List.mem_cons_of_mem _ hother, rfl⟩
    · rename_i hname
      obtain ⟨more', hmore, rfl⟩ := Option.map_eq_some_iff.mp hinsert
      obtain ⟨hall, -, hnames⟩ := insertAmong_wellFormed h.2.2 hpath hmore
      refine ⟨⟨h.1, fun other hother => ?_, hall⟩, by simp, fun other hother => ?_⟩
      · rcases hnames other hother with hfirst | ⟨old, hold, hsame⟩
        · exact fun heq => hname (heq.symm.trans hfirst)
        · exact hsame ▸ h.2.1 old hold
      · rcases List.mem_cons.mp hother with rfl | hother
        · exact Or.inr ⟨other, List.mem_cons_self, rfl⟩
        · refine (hnames other hother).imp_right ?_
          rintro ⟨old, hold, hsame⟩
          exact ⟨old, List.mem_cons_of_mem _ hold, hsame⟩

end

mutual

/-- The issue is at its path, behind those that were there, unless the path is a directory. -/
theorem insertInto_adds {tree tree' : Tree} {rest : List String} (h : tree.WellFormed)
    (hinsert : insertInto issue rest tree = some tree')
    (hend : ¬IsDirectory tree.issuesAt (tree.name :: rest)) :
    Adds issue (tree.name :: rest) tree.issuesAt tree'.issuesAt := by
  match tree, rest, h with
  | file name issues, [], h =>
    obtain rfl : .file name (issues ++ [issue]) = tree' := by simpa [insertInto] using hinsert
    intro place
    by_cases hplace : place = [name] <;> simp [issuesAt, hplace]
  | file name issues, next :: rest, h => simp [insertInto] at hinsert
  | dir name children, [], h =>
    obtain ⟨place, hplace⟩ := h.2.2.exists_issuesAt h.2.1
    refine absurd ⟨place, ?_, by simpa [issuesAt] using hplace⟩ hend
    rintro rfl
    exact hplace (issuesAtAll_nil children)
  | dir name children, next :: rest, h =>
    rw [insertInto] at hinsert
    obtain ⟨children', hchildren, rfl⟩ := Option.map_eq_some_iff.mp hinsert
    rw [name_dir, isDirectory_dir] at hend
    intro place
    cases place with
    | nil => simp [issuesAt]
    | cons part place =>
      by_cases hpart : part = name
      · subst hpart
        simpa [issuesAt] using insertAmong_adds h.2.2 hchildren hend place
      · simp [issuesAt, hpart]

theorem insertAmong_adds {trees trees' : List Tree} {first : String} {rest : List String}
    (h : WellFormedAll trees) (hinsert : insertAmong issue first rest trees = some trees')
    (hend : ¬IsDirectory (issuesAtAll trees) (first :: rest)) :
    Adds issue (first :: rest) (issuesAtAll trees) (issuesAtAll trees') := by
  match trees, h with
  | [], h =>
    obtain rfl : [branch issue first rest] = trees' := by simpa [insertAmong] using hinsert
    intro place
    simp [issuesAtAll, branch_issuesAt]
  | tree :: more, h =>
    rw [insertAmong] at hinsert
    split at hinsert
    · rename_i hname
      subst hname
      obtain ⟨tree', htree, rfl⟩ := Option.map_eq_some_iff.mp hinsert
      rw [IsDirectory.congr (issuesAtAll_cons_self h.2.1)] at hend
      intro place
      rw [issuesAtAll, issuesAtAll, insertInto_adds h.1 htree hend place]
      split
      · rename_i hplace
        -- nothing of its siblings stands behind the new issue
        have hmore : issuesAtAll more place = [] := by
          refine issuesAtAll_eq_nil fun other hother hother' => ?_
          rw [hplace] at hother'
          exact h.2.1 other hother (Option.some.inj hother').symm
        simp [hmore]
      · simp
    · rename_i hname
      obtain ⟨more', hmore, rfl⟩ := Option.map_eq_some_iff.mp hinsert
      rw [IsDirectory.congr (issuesAtAll_cons_of_ne hname)] at hend
      intro place
      rw [issuesAtAll, issuesAtAll, insertAmong_adds h.2.2 hmore hend place, List.append_assoc]

end

/-! ### All issues -/

/-- The trees of issues hold at each path the issues with that path, in order. -/
structure Holds (issues : List Issue) (trees : List Tree) : Prop where
  wellFormed : WellFormedAll trees
  issuesAt_eq : ∀ place, issuesAtAll trees place =
    issues.filter fun issue => Path.components issue.path = place

/-- One more issue stands behind the others of its place. -/
theorem filter_place_concat (issues : List Issue) (issue : Issue) (place : List String) :
    ((issues ++ [issue]).filter fun issue => Path.components issue.path = place) =
      (issues.filter fun issue => Path.components issue.path = place) ++
        if place = Path.components issue.path then [issue] else [] := by
  rw [List.filter_append]
  by_cases hplace : place = Path.components issue.path
  · simp [hplace]
  · simp [hplace, Ne.symm hplace]

theorem Holds.exists_path {issues : List Issue} {trees : List Tree} (h : Holds issues trees)
    {place : List String} (hplace : issuesAtAll trees place ≠ []) :
    ∃ issue ∈ issues, Path.components issue.path = place := by
  rw [h.issuesAt_eq] at hplace
  obtain ⟨issue, hissue⟩ := List.exists_mem_of_ne_nil _ hplace
  simp only [List.mem_filter, decide_eq_true_eq] at hissue
  exact ⟨issue, hissue⟩

/-- No file stands on the way of an issue whose path runs through no other one. -/
theorem Holds.not_passesFile {issues : List Issue} {trees : List Tree} (h : Holds issues trees)
    {issue : Issue} (habove : ∀ other ∈ issues, ¬Path.IsAbove other.path issue.path) :
    ¬PassesFile (issuesAtAll trees) (Path.components issue.path) := by
  rintro ⟨front, behind, hsplit, hbehind, hfile⟩
  obtain ⟨other, hother, hfront⟩ := h.exists_path hfile
  refine habove other hother ?_
  rw [Path.IsAbove, hfront, hsplit]
  exact Path.extends_append_self hbehind

/-- No directory stands at its end if no other path runs through its own. -/
theorem Holds.not_isDirectory {issues : List Issue} {trees : List Tree} (h : Holds issues trees)
    {issue : Issue} (hbelow : ∀ other ∈ issues, ¬Path.IsAbove issue.path other.path) :
    ¬IsDirectory (issuesAtAll trees) (Path.components issue.path) := by
  rintro ⟨behind, hbehind, hfile⟩
  obtain ⟨other, hother, hlong⟩ := h.exists_path hfile
  refine hbelow other hother ?_
  rw [Path.IsAbove, hlong]
  exact Path.extends_append_self hbehind

/-- An issue whose path is apart from the others finds its place. -/
theorem Holds.insertIssue {issues : List Issue} {trees : List Tree} (h : Holds issues trees)
    {issue : Issue} (habove : ∀ other ∈ issues, ¬Path.IsAbove other.path issue.path)
    (hbelow : ∀ other ∈ issues, ¬Path.IsAbove issue.path other.path) :
    ∃ trees', Tree.insertIssue trees issue = some trees' ∧ Holds (issues ++ [issue]) trees' := by
  have hway := h.not_passesFile habove
  have hend := h.not_isDirectory hbelow
  rw [Tree.insertIssue]
  cases hpath : Path.components issue.path with
  | nil => exact absurd hpath (Path.components_ne_nil _)
  | cons first rest =>
    rw [hpath] at hway hend
    have hparts : ∀ part ∈ first :: rest, '/' ∉ part.toList := fun part hpart =>
      Path.slash_not_mem_of_mem_components (hpath ▸ hpart)
    rw [← insertAmong_eq_none_iff h.wellFormed, ← Ne, Option.ne_none_iff_exists'] at hway
    obtain ⟨trees', hinsert⟩ := hway
    refine ⟨trees', hinsert, (insertAmong_wellFormed h.wellFormed hparts hinsert).1, ?_⟩
    intro place
    rw [insertAmong_adds h.wellFormed hinsert hend place, h.issuesAt_eq, filter_place_concat, hpath]

end Tree

/-- No path of an issue runs through that of another one. -/
def PathsApart (issues : List Issue) : Prop :=
  ∀ a ∈ issues, ∀ b ∈ issues, ¬Path.IsAbove a.path b.path

instance (issues : List Issue) : Decidable (PathsApart issues) :=
  inferInstanceAs (Decidable (∀ a ∈ issues, ∀ b ∈ issues, ¬Path.IsAbove a.path b.path))

theorem PathsApart.mono {issues issues' : List Issue} (h : PathsApart issues)
    (hsub : ∀ issue ∈ issues', issue ∈ issues) : PathsApart issues' :=
  fun a ha b hb => h a (hsub a ha) b (hsub b hb)

theorem Tree.ofIssues?_concat (issues : List Issue) (issue : Issue) :
    ofIssues? (issues ++ [issue]) = (ofIssues? issues).bind (Tree.insertIssue · issue) := by
  rw [ofIssues?, ofIssues?, List.foldlM_append]
  simp

theorem Tree.ofIssues?_holds {issues : List Issue} (h : PathsApart issues) :
    ∃ trees, ofIssues? issues = some trees ∧ Holds issues trees := by
  induction issues using List.reverseRecOn with
  | nil => exact ⟨[], rfl, trivial, fun _ => rfl⟩
  | append_singleton issues issue ih =>
    have hlast : issue ∈ issues ++ [issue] := by simp
    have hold : ∀ other ∈ issues, other ∈ issues ++ [issue] := fun _ => List.mem_append_left _
    obtain ⟨trees, htrees, hholds⟩ := ih (h.mono hold)
    obtain ⟨trees', hinsert, hholds'⟩ := hholds.insertIssue
      (fun other hother => h other (hold other hother) issue hlast)
      (fun other hother => h issue hlast other (hold other hother))
    refine ⟨trees', ?_, hholds'⟩
    rw [ofIssues?_concat, htrees]
    exact hinsert

end InlineAudit
