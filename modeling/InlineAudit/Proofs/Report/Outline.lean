import InlineAudit.Proofs.Lists
import InlineAudit.Proofs.Report.Rows
import InlineAudit.Proofs.Report.Tidy
import Mathlib.Algebra.GroupWithZero.Nat
import Mathlib.Data.List.Perm.Basic

/-!
The rows of a report show every issue once, in its place. The leaves of the tree that is shown are
the paths of the issues, each with its issues; what its rows say follows from the leaves: the files
themselves, the counts of a directory, which are those of the leaves beyond it, and the sums at the
top. That siblings are in order is what tidying the tree brings about.
-/

namespace InlineAudit

open Text

namespace Entry

/-- The names of the directories it is in. -/
def above : Entry → List String
  | dir above _ _ _ => above
  | file above _ _ => above

@[simp]
theorem above_dir (above : List String) (name : String) (files issues : Nat) :
    (dir above name files issues).above = above := rfl

@[simp]
theorem above_file (above : List String) (name : String) (issues : List Issue) :
    (file above name issues).above = above := rfl

def name : Entry → String
  | dir _ name _ _ => name
  | file _ name _ => name

def isFile : Entry → Bool
  | dir _ _ _ _ => false
  | file _ _ _ => true

/-- The name of a file, the first component of the name of a directory. -/
def label : Entry → String
  | dir _ name _ _ => (Path.components name).headD ""
  | file _ name _ => name

/-- All names on the way, joined. -/
def path (entry : Entry) : String := join "/" (entry.above ++ [entry.name])

/-- A file by its path, with its issues. -/
def file? : Entry → Option (String × List Issue)
  | dir _ _ _ _ => none
  | file above name issues => some ((file above name issues).path, issues)

/-- The number of files, as a row shows it or is one. -/
def fileCount : Entry → Nat
  | dir _ _ files _ => files
  | file _ _ _ => 1

def issueCount : Entry → Nat
  | dir _ _ _ issues => issues
  | file _ _ issues => issues.length

/-- Siblings in order: directories before files, and each kind by the bytes of its labels. -/
def InOrder (a b : Entry) : Prop :=
  a.above = b.above →
    (a.isFile → b.isFile) ∧
      (a.isFile = b.isFile → encodeString a.label < encodeString b.label)

end Entry

/-- What rows show of a report. -/
structure Shows (report : Report) (rows : List Row) : Prop where
  /-- No file is shown twice. -/
  files_nodup : (((entries [] rows).filterMap Entry.file?).map Prod.fst).Nodup
  /-- The files are those with issues, and each stands above its issues. -/
  file_iff : ∀ path found, (path, found) ∈ (entries [] rows).filterMap Entry.file? ↔
    found = report.issues.filter (·.path = path) ∧ found ≠ []
  /-- There are no other rows of issues, and no other rows at all. -/
  issue_rows : rows.countP Row.isIssue = report.issues.length
  other_rows : rows.countP (!·.isIssue) = (entries [] rows).length
  siblings : (entries [] rows).Pairwise Entry.InOrder
  /-- A directory counts the paths and issues below it. -/
  counts : ∀ above name files issues, .dir above name files issues ∈ entries [] rows →
    files = ((report.issues.map (·.path)).eraseDups.filter
      (Path.IsAbove (join "/" (above ++ [name])) ·)).length ∧
    issues = (report.issues.filter
      (Path.IsAbove (join "/" (above ++ [name])) ·.path)).length
  top_files : (((entries [] rows).filter (·.above = [])).map Entry.fileCount).sum =
    report.filesWithIssues
  top_issues : (((entries [] rows).filter (·.above = [])).map Entry.issueCount).sum =
    report.issues.length

namespace Tree

/-! ### Counting leaves -/

mutual

theorem fileCount_eq (tree : Tree) : tree.fileCount = tree.leaves.length := by
  match tree with
  | file name issues => rfl
  | dir name children => rw [fileCount, leaves, List.length_map, fileCountAll_eq]

theorem fileCountAll_eq (trees : List Tree) : fileCountAll trees = (leavesAll trees).length := by
  match trees with
  | [] => rfl
  | tree :: rest =>
    rw [fileCountAll, leavesAll, List.length_append, fileCount_eq, fileCountAll_eq]

end

/-- The number of issues at leaves. -/
def issueTotal (leaves : List (List String × List Issue)) : Nat :=
  (leaves.map fun leaf => leaf.2.length).sum

@[simp]
theorem issueTotal_append (first second : List (List String × List Issue)) :
    issueTotal (first ++ second) = issueTotal first + issueTotal second := by
  simp [issueTotal]

mutual

theorem issueCount_eq (tree : Tree) : tree.issueCount = issueTotal tree.leaves := by
  match tree with
  | file name issues => simp [issueCount, leaves, issueTotal]
  | dir name children =>
    rw [issueCount, leaves, issueTotal, List.map_map, issueCountAll_eq]
    rfl

theorem issueCountAll_eq (trees : List Tree) :
    issueCountAll trees = issueTotal (leavesAll trees) := by
  match trees with
  | [] => rfl
  | tree :: rest =>
    rw [issueCountAll, leavesAll, issueTotal_append, issueCount_eq, issueCountAll_eq]

end

mutual

theorem countP_rows (above : List Bool) (last : Bool) (tree : Tree) :
    (tree.rows above last).countP Row.isIssue = tree.issueCount := by
  match tree with
  | file name issues =>
    rw [rows, List.countP_cons_of_neg (by simp [Row.isIssue]), List.countP_map, issueCount]
    exact List.countP_eq_length.mpr fun _ _ => rfl
  | dir name children =>
    rw [rows, List.countP_cons_of_neg (by simp [Row.isIssue]), countP_rowsAll, issueCount]

theorem countP_rowsAll (above : List Bool) (trees : List Tree) :
    (rowsAll above trees).countP Row.isIssue = issueCountAll trees := by
  match trees with
  | [] => rfl
  | tree :: rest =>
    rw [rowsAll, List.countP_append, countP_rows, countP_rowsAll, issueCountAll]

end

mutual

theorem length_entries (above : List Bool) (last : Bool) (names : List String) (tree : Tree) :
    (tree.rows above last).countP (!·.isIssue) = (tree.entries names).length := by
  match tree with
  | file name issues =>
    rw [rows, List.countP_cons_of_pos (by simp [Row.isIssue]), List.countP_map]
    simp [entries, Function.comp_def, Row.isIssue]
  | dir name children =>
    rw [rows, List.countP_cons_of_pos (by simp [Row.isIssue]), entries, List.length_cons,
      length_entriesAll]

theorem length_entriesAll (above : List Bool) (names : List String) (trees : List Tree) :
    (rowsAll above trees).countP (!·.isIssue) = (entriesAll names trees).length := by
  match trees with
  | [] => rfl
  | tree :: rest =>
    rw [rowsAll, List.countP_append, length_entries above rest.isEmpty names,
      length_entriesAll above names, entriesAll, List.length_append]

end

/-! ### Files -/

mutual

/-- The files that are shown are the leaves. -/
theorem entries_files (above : List String) (tree : Tree) :
    ((tree.entries above).filterMap Entry.file?).map (Prod.map Path.components id) =
      tree.leaves.map (Prod.map (above.flatMap Path.components ++ ·) id) := by
  match tree with
  | file name issues =>
    simp [entries, Entry.file?, Entry.path, Entry.name, leaves, Path.components_join]
  | dir name children =>
    have hchildren := entriesAll_files (above ++ [name]) children
    rw [entries, List.filterMap_cons_none rfl, hchildren, leaves, List.map_map]
    simp [Function.comp_def, Prod.map]

theorem entriesAll_files (above : List String) (trees : List Tree) :
    ((entriesAll above trees).filterMap Entry.file?).map (Prod.map Path.components id) =
      (leavesAll trees).map (Prod.map (above.flatMap Path.components ++ ·) id) := by
  match trees with
  | [] => rfl
  | tree :: rest =>
    rw [entriesAll, List.filterMap_append, List.map_append, entries_files, entriesAll_files,
      leavesAll, List.map_append]

end

theorem entriesAll_nil_files (trees : List Tree) :
    ((entriesAll [] trees).filterMap Entry.file?).map (Prod.map Path.components id) =
      leavesAll trees := by
  rw [entriesAll_files]
  exact List.map_id (leavesAll trees)

theorem mem_files_iff {trees : List Tree} {path : String} {found : List Issue} :
    (path, found) ∈ (entriesAll [] trees).filterMap Entry.file? ↔
      (Path.components path, found) ∈ leavesAll trees := by
  rw [← entriesAll_nil_files, List.mem_map]
  constructor
  · exact fun h => ⟨_, h, rfl⟩
  · rintro ⟨⟨other, found'⟩, hmem, heq⟩
    obtain ⟨hpath, rfl⟩ := Prod.mk.inj heq
    rwa [Path.components_inj.mp hpath] at hmem

/-! ### Siblings -/

mutual

/-- An entry of a tree is the tree itself or in a directory of its name. -/
theorem mem_entries {above : List String} {tree : Tree} {entry : Entry}
    (h : entry ∈ tree.entries above) :
    (entry.above = above ∧ entry.isFile = tree.isFile ∧ entry.label = tree.label) ∨
      above ++ [tree.name] <+: entry.above := by
  match tree, h with
  | file name issues, h =>
    obtain rfl : entry = .file above name issues := by simpa [entries] using h
    exact Or.inl ⟨rfl, rfl, rfl⟩
  | dir name children, h =>
    rw [entries, List.mem_cons] at h
    rcases h with rfl | h
    · exact Or.inl ⟨rfl, rfl, rfl⟩
    · exact Or.inr (above_prefix_of_mem h)

theorem above_prefix_of_mem {above : List String} {trees : List Tree} {entry : Entry}
    (h : entry ∈ entriesAll above trees) : above <+: entry.above := by
  match trees, h with
  | tree :: rest, h =>
    rw [entriesAll, List.mem_append] at h
    rcases h with h | h
    · rcases mem_entries h with ⟨habove, -⟩ | hbelow
      · rw [habove]
      · exact (List.prefix_append ..).trans hbelow
    · exact above_prefix_of_mem h

end

theorem exists_of_mem_entriesAll {above : List String} {trees : List Tree} {entry : Entry}
    (h : entry ∈ entriesAll above trees) : ∃ tree ∈ trees, entry ∈ tree.entries above := by
  induction trees with
  | nil => cases h
  | cons tree rest ih =>
    rw [entriesAll, List.mem_append] at h
    rcases h with h | h
    · exact ⟨tree, List.mem_cons_self, h⟩
    · obtain ⟨other, hother, hentry⟩ := ih h
      exact ⟨other, List.mem_cons_of_mem _ hother, hentry⟩

/-- What is in a directory is not next to it. -/
theorem ne_of_inside {above inside : List String} {name : String}
    (h : above ++ [name] <+: inside) : above ≠ inside := by
  intro heq
  have hlength := h.length_le
  rw [← heq, List.length_append, List.length_singleton] at hlength
  omega

theorem Before.inOrder {above : List String} {first second : Tree} (h : Before first second)
    {a b : Entry} (ha : a ∈ first.entries above) (hb : b ∈ second.entries above) :
    a.InOrder b := by
  intro hsame
  rcases mem_entries ha with ⟨ha, hfile, hlabel⟩ | ha <;>
    rcases mem_entries hb with ⟨hb, hfile', hlabel'⟩ | hb
  · rw [hfile, hfile', hlabel, hlabel']
    exact ⟨h.dirs_first, h.label_lt⟩
  · exact absurd (ha.symm.trans hsame) (ne_of_inside hb)
  · exact absurd (hb.symm.trans hsame.symm) (ne_of_inside ha)
  · -- both are deeper, in directories with different names
    rw [hsame] at ha
    have heq := List.prefix_of_prefix_length_le ha hb (by simp)
    have hname : first.name = second.name := by simpa using heq.eq_of_length (by simp)
    exact absurd (by rw [hname]) h.head_ne

mutual

theorem Ordered.entries_inOrder {tree : Tree} (h : tree.Ordered) (above : List String) :
    (tree.entries above).Pairwise Entry.InOrder := by
  match tree, h with
  | file name issues, h => exact List.pairwise_singleton ..
  | dir name children, h =>
    rw [entries, List.pairwise_cons]
    refine ⟨fun entry hentry hsame => ?_, OrderedAll.entries_inOrder h (above ++ [name])⟩
    exact absurd hsame (ne_of_inside (above_prefix_of_mem hentry))

theorem OrderedAll.entries_inOrder {trees : List Tree} (h : OrderedAll trees)
    (above : List String) : (entriesAll above trees).Pairwise Entry.InOrder := by
  match trees, h with
  | [], h => exact .nil
  | tree :: rest, h =>
    rw [entriesAll, List.pairwise_append]
    refine ⟨Ordered.entries_inOrder h.1 above, OrderedAll.entries_inOrder h.2.2 above, ?_⟩
    intro a ha b hb
    obtain ⟨other, hother, hb⟩ := exists_of_mem_entriesAll hb
    exact (h.2.1 other hother).inOrder ha hb

end

/-! ### Counts -/

/-- The leaves beyond a place. -/
def beyond (place : List String) (leaves : List (List String × List Issue)) :
    List (List String × List Issue) :=
  leaves.filter fun leaf => Path.Extends place leaf.1

theorem prefix_of_mem_leaves {tree : Tree} {leaf : List String × List Issue}
    (h : leaf ∈ tree.leaves) : Path.components tree.name <+: leaf.1 := by
  cases tree with
  | file name issues =>
    obtain rfl : leaf = (Path.components name, issues) := by simpa [leaves] using h
    exact List.prefix_rfl
  | dir name children =>
    obtain ⟨inner, -, rfl⟩ := List.mem_map.mp h
    exact List.prefix_append ..

theorem ne_nil_of_mem_leavesAll {trees : List Tree} {leaf : List String × List Issue}
    (h : leaf ∈ leavesAll trees) : leaf.1 ≠ [] := by
  rw [leavesAll_eq_flatMap] at h
  obtain ⟨tree, -, hleaf⟩ := List.mem_flatMap.mp h
  intro hnil
  have hprefix := prefix_of_mem_leaves hleaf
  rw [hnil, List.prefix_nil] at hprefix
  exact Path.components_ne_nil _ hprefix

theorem head?_of_components_prefix {name : String} {place : List String}
    (h : Path.components name <+: place) : place.head? = (Path.components name).head? := by
  obtain ⟨rest, rfl⟩ := h
  exact List.head?_append_of_ne_nil _ (Path.components_ne_nil name)

/-- No leaf of a tree is beyond a place that begins with another name. -/
theorem beyond_eq_nil {tree : Tree} {name : String} {place : List String}
    (hne : (Path.components tree.name).head? ≠ (Path.components name).head?)
    (hplace : Path.components name <+: place) : beyond place tree.leaves = [] := by
  refine List.filter_eq_nil_iff.mpr fun leaf hleaf hbeyond => hne ?_
  have hextends : Path.Extends place leaf.1 := of_decide_eq_true hbeyond
  rw [← head?_of_components_prefix (prefix_of_mem_leaves hleaf),
    ← head?_of_components_prefix (hplace.trans hextends.1)]

theorem beyond_leavesAll_eq_nil {trees : List Tree} {name : String} {place : List String}
    (hne : ∀ tree ∈ trees, (Path.components tree.name).head? ≠ (Path.components name).head?)
    (hplace : Path.components name <+: place) : beyond place (leavesAll trees) = [] := by
  induction trees with
  | nil => rfl
  | cons tree rest ih =>
    rw [leavesAll, beyond, List.filter_append]
    exact List.append_eq_nil_iff.mpr ⟨beyond_eq_nil (hne tree List.mem_cons_self) hplace,
      ih fun other hother => hne other (List.mem_cons_of_mem _ hother)⟩

/-- In front of a directory's name, `beyond` looks into the directory. -/
theorem beyond_dir (name : String) (children : List Tree) (place : List String) :
    beyond (Path.components name ++ place) (dir name children).leaves =
      (beyond place (leavesAll children)).map (Prod.map (Path.components name ++ ·) id) := by
  rw [leaves, beyond, beyond, List.filter_map]
  simp only [Function.comp_def, Path.extends_append_left]
  rfl

theorem beyond_self (name : String) (children : List Tree) :
    beyond (Path.components name) (dir name children).leaves = (dir name children).leaves := by
  refine List.filter_eq_self.mpr fun leaf hleaf => decide_eq_true ?_
  obtain ⟨inner, hinner, rfl⟩ := List.mem_map.mp hleaf
  exact Path.extends_append_self (ne_nil_of_mem_leavesAll hinner)

mutual

/-- The counts of a directory are those of the leaves beyond its place. -/
theorem Ordered.counts {tree : Tree} (h : tree.Ordered) {above inside : List String}
    {name : String} {files issues : Nat}
    (hentry : .dir inside name files issues ∈ tree.entries above) :
    ∃ place, Path.components tree.name <+: place ∧
      (inside ++ [name]).flatMap Path.components = above.flatMap Path.components ++ place ∧
      files = (beyond place tree.leaves).length ∧
      issues = issueTotal (beyond place tree.leaves) := by
  match tree, h with
  | file own found, h => simp [entries] at hentry
  | dir own children, h =>
    rw [entries, List.mem_cons] at hentry
    rcases hentry with hself | hinside
    · obtain ⟨rfl, rfl, rfl, rfl⟩ := Entry.dir.inj hself
      refine ⟨Path.components name, List.prefix_rfl, by simp, ?_⟩
      rw [beyond_self, ← fileCount_eq, ← issueCount_eq]
      exact ⟨rfl, rfl⟩
    · obtain ⟨tree, -, place, -, hnames, hfiles, hissues⟩ := OrderedAll.counts h hinside
      refine ⟨Path.components own ++ place, List.prefix_append .., by simp [hnames], ?_⟩
      rw [beyond_dir, List.length_map, issueTotal, List.map_map]
      exact ⟨hfiles, hissues⟩

theorem OrderedAll.counts {trees : List Tree} (h : OrderedAll trees) {above inside : List String}
    {name : String} {files issues : Nat}
    (hentry : .dir inside name files issues ∈ entriesAll above trees) :
    ∃ tree ∈ trees, ∃ place, Path.components tree.name <+: place ∧
      (inside ++ [name]).flatMap Path.components = above.flatMap Path.components ++ place ∧
      files = (beyond place (leavesAll trees)).length ∧
      issues = issueTotal (beyond place (leavesAll trees)) := by
  match trees, h with
  | tree :: rest, h =>
    have hsplit (place : List String) : beyond place (leavesAll (tree :: rest)) =
        beyond place tree.leaves ++ beyond place (leavesAll rest) := by
      rw [leavesAll, beyond, List.filter_append]
      rfl
    rw [entriesAll, List.mem_append] at hentry
    rcases hentry with hentry | hentry
    · obtain ⟨place, hplace, hnames, hfiles, hissues⟩ := Ordered.counts h.1 hentry
      have hrest : beyond place (leavesAll rest) = [] := beyond_leavesAll_eq_nil
        (fun other hother => (h.2.1 other hother).head_ne.symm) hplace
      refine ⟨tree, List.mem_cons_self, place, hplace, hnames, ?_⟩
      rw [hsplit, hrest, List.append_nil]
      exact ⟨hfiles, hissues⟩
    · obtain ⟨other, hother, place, hplace, hnames, hfiles, hissues⟩ :=
        OrderedAll.counts h.2.2 hentry
      have htree : beyond place tree.leaves = [] :=
        beyond_eq_nil (h.2.1 other hother).head_ne hplace
      refine ⟨other, List.mem_cons_of_mem _ hother, place, hplace, hnames, ?_⟩
      rw [hsplit, htree, List.nil_append]
      exact ⟨hfiles, hissues⟩

end

/-- At the top of a forest, the counts sum up to those of all leaves. -/
theorem top_counts (above : List String) (trees : List Tree) :
    (((entriesAll above trees).filter (·.above = above)).map Entry.fileCount).sum =
        fileCountAll trees ∧
      (((entriesAll above trees).filter (·.above = above)).map Entry.issueCount).sum =
        issueCountAll trees := by
  induction trees with
  | nil => exact ⟨rfl, rfl⟩
  | cons tree rest ih =>
    rw [entriesAll, List.filter_append, List.map_append, List.map_append, List.sum_append,
      List.sum_append, ih.1, ih.2, fileCountAll, issueCountAll]
    cases tree with
    | file name issues =>
      simp [entries, Entry.fileCount, Entry.issueCount, fileCount, issueCount]
    | dir name children =>
      have hinside : (entriesAll (above ++ [name]) children).filter (·.above = above) = [] := by
        refine List.filter_eq_nil_iff.mpr fun entry hentry hsame => ?_
        exact ne_of_inside (above_prefix_of_mem hentry) (of_decide_eq_true hsame).symm
      simp [entries, Entry.fileCount, Entry.issueCount, fileCount, issueCount, hinside]

end Tree

/-! ### Leaves and paths -/

/-- The issues with one of some places, one place after the other. -/
theorem length_filter_mem (issues : List Issue) {places : List (List String)}
    (h : places.Nodup) :
    (places.map fun place =>
      (issues.filter fun issue => Path.components issue.path = place).length).sum =
      (issues.filter fun issue => Path.components issue.path ∈ places).length := by
  induction places with
  | nil => simp
  | cons place rest ih =>
    rw [List.nodup_cons] at h
    rw [List.map_cons, List.sum_cons, ih h.2]
    clear ih
    induction issues with
    | nil => rfl
    | cons issue issues ih =>
      by_cases hplace : Path.components issue.path = place
      · simp [hplace, h.1] at ih ⊢
        omega
      · by_cases hrest : Path.components issue.path ∈ rest
        · simp [hplace, hrest] at ih ⊢
          omega
        · simpa [hplace, hrest] using ih

namespace Lists

variable {issues : List Issue} {leaves : List (List String × List Issue)}

theorem mem_places_iff (h : Lists issues leaves) {place : List String} :
    place ∈ leaves.map Prod.fst ↔ ∃ issue ∈ issues, Path.components issue.path = place := by
  constructor
  · intro hplace
    obtain ⟨⟨place, found⟩, hleaf, rfl⟩ := List.mem_map.mp hplace
    obtain ⟨rfl, hne⟩ := (h.mem_iff place found).mp hleaf
    obtain ⟨issue, hissue⟩ := List.exists_mem_of_ne_nil _ hne
    exact ⟨issue, by simpa using hissue⟩
  · rintro ⟨issue, hissue, rfl⟩
    have hmem : issue ∈ issues.filter fun other =>
        Path.components other.path = Path.components issue.path :=
      List.mem_filter.mpr ⟨hissue, decide_eq_true rfl⟩
    exact List.mem_map.mpr ⟨_, (h.mem_iff _ _).mpr ⟨rfl, List.ne_nil_of_mem hmem⟩, rfl⟩

theorem nodup_filter (h : Lists issues leaves) (p : List String → Bool) :
    ((leaves.filter fun leaf => p leaf.1).map Prod.fst).Nodup :=
  h.nodup.sublist (List.filter_sublist.map _)

theorem mem_filter_places_iff (h : Lists issues leaves) {p : List String → Bool}
    {place : List String} :
    place ∈ (leaves.filter fun leaf => p leaf.1).map Prod.fst ↔
      (∃ issue ∈ issues, Path.components issue.path = place) ∧ p place = true := by
  rw [← h.mem_places_iff, ← List.mem_filter, List.filter_map]
  rfl

/-- There are as many leaves as different paths, also if only some places count. -/
theorem length_eq (h : Lists issues leaves) (p : List String → Bool) :
    (leaves.filter fun leaf => p leaf.1).length =
      ((issues.map (·.path)).eraseDups.filter fun path => p (Path.components path)).length := by
  have hperm : ((leaves.filter fun leaf => p leaf.1).map Prod.fst).Perm
      (((issues.map (·.path)).eraseDups.filter fun path => p (Path.components path)).map
        Path.components) := by
    refine (List.perm_ext_iff_of_nodup (h.nodup_filter p) ?_).mpr fun place => ?_
    · exact ((nodup_eraseDups _).filter _).map fun a b => Path.components_inj.mp
    · rw [h.mem_filter_places_iff, List.mem_map]
      constructor
      · rintro ⟨⟨issue, hissue, rfl⟩, hp⟩
        exact ⟨issue.path, by simpa [hp] using ⟨issue, hissue, rfl⟩, rfl⟩
      · rintro ⟨path, hpath, rfl⟩
        simp only [List.mem_filter, List.mem_eraseDups, List.mem_map] at hpath
        obtain ⟨⟨issue, hissue, rfl⟩, hp⟩ := hpath
        exact ⟨⟨issue, hissue, rfl⟩, hp⟩
  simpa using hperm.length_eq

/-- And as many issues at them as have such a place. -/
theorem issueTotal_eq (h : Lists issues leaves) (p : List String → Bool) :
    Tree.issueTotal (leaves.filter fun leaf => p leaf.1) =
      (issues.filter fun issue => p (Path.components issue.path)).length := by
  have hplaces : Tree.issueTotal (leaves.filter fun leaf => p leaf.1) =
      (((leaves.filter fun leaf => p leaf.1).map Prod.fst).map fun place =>
        (issues.filter fun issue => Path.components issue.path = place).length).sum := by
    rw [Tree.issueTotal, List.map_map]
    refine congrArg List.sum (List.map_congr_left fun leaf hleaf => ?_)
    have hfound := ((h.mem_iff leaf.1 leaf.2).mp (List.mem_filter.mp hleaf).1).1
    rw [hfound]
    rfl
  rw [hplaces, length_filter_mem issues (h.nodup_filter p)]
  refine congrArg List.length (List.filter_congr fun issue hissue => ?_)
  simp only [h.mem_filter_places_iff]
  cases hp : p (Path.components issue.path) with
  | false => simp
  | true => simpa using ⟨issue, hissue, rfl⟩

end Lists

/-! ### The report -/

/-- Rows of ordered trees whose leaves are the issues of a report. -/
theorem Lists.shows {report : Report} {trees : List Tree}
    (h : Lists report.issues (Tree.leavesAll trees)) (hordered : Tree.OrderedAll trees) :
    Shows report (Tree.rowsAll [] trees) := by
  have hread := entries_nil_rowsAll trees
  have hlength := h.length_eq fun _ => true
  have htotal := h.issueTotal_eq fun _ => true
  simp only [List.filter_true] at hlength htotal
  refine ⟨?_, ?_, ?_, ?_, ?_, ?_, ?_, ?_⟩
  · have hnodup := h.nodup
    rw [← Tree.entriesAll_nil_files, List.map_map] at hnodup
    rw [hread]
    refine List.Nodup.of_map Path.components ?_
    rw [List.map_map]
    exact hnodup
  · intro path found
    rw [hread, Tree.mem_files_iff, h.mem_iff]
    simp only [Path.components_inj]
  · rw [Tree.countP_rowsAll, Tree.issueCountAll_eq, htotal]
  · rw [hread]
    exact Tree.length_entriesAll [] [] trees
  · rw [hread]
    exact hordered.entries_inOrder []
  · intro above name files issues hentry
    rw [hread] at hentry
    obtain ⟨tree, -, place, -, hnames, rfl, rfl⟩ := hordered.counts hentry
    have hplace : Path.components (join "/" (above ++ [name])) = place := by
      rw [Path.components_join (by simp), hnames]
      rfl
    simp only [Path.IsAbove, hplace]
    exact ⟨h.length_eq fun other => Path.Extends place other,
      h.issueTotal_eq fun other => Path.Extends place other⟩
  · rw [hread, (Tree.top_counts [] trees).1, Tree.fileCountAll_eq, hlength]
    rfl
  · rw [hread, (Tree.top_counts [] trees).2, Tree.issueCountAll_eq, htotal]

/-- If no path of an issue runs through another one, the tree of a report can be built, and its
rows show every issue once and in its place. -/
theorem tree_shows_issues (report : Report) (h : PathsApart report.issues) :
    ∃ trees rows, Tree.ofIssues? report.issues = some trees ∧
      (∀ finish, Report.forestRows finish "" (Tree.tidyAll trees) = rows.map (Row.text finish)) ∧
      Shows report rows := by
  obtain ⟨trees, htrees, hholds⟩ := Tree.ofIssues?_holds h
  refine ⟨trees, Tree.rowsAll [] (Tree.tidyAll trees), htrees, fun finish => ?_, ?_⟩
  · exact Report.forestRows_eq finish [] (Tree.tidyAll trees)
  · exact (hholds.lists.perm (Tree.leavesAll_tidyAll trees)).shows hholds.wellFormed.tidyAll_ordered

/-- An issue at the only line of a file. -/
def issueIn (path : String) : Issue :=
  { path := path, language := "py", repository := "python", rule := Rule.key, line := 1
    evidenceLine := 1, category := .bareMarker, message := "" }

/-- Two files in a chain of directories, which is merged, and one next to it. -/
def chainReport : Report :=
  { root := "/project", issues := [issueIn "b.py", issueIn "a/b/x.py", issueIn "a/b/y.py"] }

theorem chainReport_shown : ∃ trees rows, Tree.ofIssues? chainReport.issues = some trees ∧
    (∀ finish, Report.forestRows finish "" (Tree.tidyAll trees) = rows.map (Row.text finish)) ∧
    ("a/b/x.py", [issueIn "a/b/x.py"]) ∈ (entries [] rows).filterMap Entry.file? := by
  obtain ⟨trees, rows, htrees, htext, hshows⟩ := tree_shows_issues chainReport (by decide)
  exact ⟨trees, rows, htrees, htext, (hshows.file_iff _ _).mpr (by decide)⟩

end InlineAudit
