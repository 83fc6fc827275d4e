import InlineAudit.Proofs.Report.Insertion
import InlineAudit.Proofs.Text.Utf8
import Mathlib.Data.List.Nodup

/-!
Trees as they are shown. Sorting siblings and merging chains of directories moves no file:
`leaves` lists the files of a tree with the components of all names on the way, and tidying only
permutes that list. What it brings about is the order of siblings, which is that of the bytes of
their first components.
-/

namespace InlineAudit

open Text

namespace Tree

/-! ### Leaves -/

mutual

/-- The files of a tree with their issues. A name may stand for several components. -/
def leaves : Tree → List (List String × List Issue)
  | file name issues => [(Path.components name, issues)]
  | dir name children =>
    (leavesAll children).map fun leaf => (Path.components name ++ leaf.1, leaf.2)

def leavesAll : List Tree → List (List String × List Issue)
  | [] => []
  | tree :: rest => tree.leaves ++ leavesAll rest

end

theorem leavesAll_eq_flatMap (trees : List Tree) : leavesAll trees = trees.flatMap leaves := by
  induction trees with
  | nil => rfl
  | cons tree rest ih => rw [leavesAll, ih, List.flatMap_cons]

mutual

/-- The leaves of a well-formed tree are what it holds. -/
theorem mem_leaves_iff {tree : Tree} (h : tree.WellFormed) {place : List String}
    {found : List Issue} :
    (place, found) ∈ tree.leaves ↔ found = tree.issuesAt place ∧ found ≠ [] := by
  match tree, place, h with
  | file name issues, place, h =>
    rw [leaves, Path.components_of_no_slash h.1, List.mem_singleton, Prod.mk.injEq, issuesAt]
    by_cases hplace : place = [name]
    · simp only [hplace, if_true, true_and]
      exact ⟨fun hfound => ⟨hfound, hfound ▸ h.2⟩, And.left⟩
    · simp [hplace]
  | dir name children, [], h => simp [leaves, issuesAt, Path.components_of_no_slash h.1]
  | dir name children, first :: rest, h =>
    by_cases hfirst : first = name
    · subst hfirst
      simpa [leaves, issuesAt, Path.components_of_no_slash h.1] using mem_leavesAll_iff h.2.2
    · simp [leaves, issuesAt, Path.components_of_no_slash h.1, hfirst, Ne.symm hfirst]

theorem mem_leavesAll_iff {trees : List Tree} (h : WellFormedAll trees) {place : List String}
    {found : List Issue} :
    (place, found) ∈ leavesAll trees ↔ found = issuesAtAll trees place ∧ found ≠ [] := by
  match trees, h with
  | [], h => simp [leavesAll, issuesAtAll]
  | tree :: rest, h =>
    rw [leavesAll, List.mem_append, mem_leaves_iff h.1, mem_leavesAll_iff h.2.2, issuesAtAll]
    -- a place is below one tree at most
    by_cases hplace : place.head? = some tree.name
    · have hrest : issuesAtAll rest place = [] := issuesAtAll_eq_nil fun other hother hname =>
        h.2.1 other hother (Option.some.inj (hname.symm.trans hplace))
      simp [hrest]
    · simp [issuesAt_eq_nil hplace]

end

mutual

theorem leaves_nodup {tree : Tree} (h : tree.WellFormed) : (tree.leaves.map Prod.fst).Nodup := by
  match tree, h with
  | file name issues, h => simp [leaves]
  | dir name children, h =>
    have hmap : (dir name children).leaves.map Prod.fst =
        ((leavesAll children).map Prod.fst).map (Path.components name ++ ·) := by
      rw [leaves, List.map_map, List.map_map]
      rfl
    rw [hmap]
    exact (leavesAll_nodup h.2.2).map (List.append_right_injective _)

theorem leavesAll_nodup {trees : List Tree} (h : WellFormedAll trees) :
    ((leavesAll trees).map Prod.fst).Nodup := by
  match trees, h with
  | [], h => simp [leavesAll]
  | tree :: rest, h =>
    rw [leavesAll, List.map_append]
    refine (leaves_nodup h.1).append (leavesAll_nodup h.2.2) fun place hplace hrest => ?_
    obtain ⟨⟨place, found⟩, hleaf, rfl⟩ := List.mem_map.mp hplace
    obtain ⟨⟨place', found'⟩, hleaf', hsame⟩ := List.mem_map.mp hrest
    obtain rfl : place' = place := hsame
    obtain ⟨rfl, hfound⟩ := (mem_leaves_iff h.1).mp hleaf
    obtain ⟨rfl, hfound'⟩ := (mem_leavesAll_iff h.2.2).mp hleaf'
    -- both hold something here, but their names differ
    have hname : place'.head? = some tree.name := by
      by_contra hne
      exact hfound (issuesAt_eq_nil hne)
    refine hfound' (issuesAtAll_eq_nil fun other hother hother' => ?_)
    exact h.2.1 other hother (Option.some.inj (hother'.symm.trans hname))

end

end Tree

/-- Leaves that are the files of issues, each with its own issues. -/
structure Lists (issues : List Issue) (leaves : List (List String × List Issue)) : Prop where
  nodup : (leaves.map Prod.fst).Nodup
  mem_iff : ∀ place found, (place, found) ∈ leaves ↔
    found = issues.filter (fun issue => Path.components issue.path = place) ∧ found ≠ []

theorem Lists.perm {issues : List Issue} {leaves leaves' : List (List String × List Issue)}
    (h : Lists issues leaves) (hperm : leaves'.Perm leaves) : Lists issues leaves' where
  nodup := (hperm.map Prod.fst).nodup_iff.mpr h.nodup
  mem_iff place found := by rw [hperm.mem_iff, h.mem_iff]

namespace Tree

theorem Holds.lists {issues : List Issue} {trees : List Tree} (h : Holds issues trees) :
    Lists issues (leavesAll trees) where
  nodup := leavesAll_nodup h.wellFormed
  mem_iff place found := by rw [mem_leavesAll_iff h.wellFormed, h.issuesAt_eq]

/-! ### Nothing is lost -/

theorem tidyPairs_eq_map (trees : List Tree) :
    tidyPairs trees = trees.map fun tree => (tree, tree.tidy) := by
  induction trees with
  | nil => rfl
  | cons tree rest ih => rw [tidyPairs, ih, List.map_cons]

theorem tidyAll_perm (trees : List Tree) : (tidyAll trees).Perm (trees.map tidy) := by
  have hperm := (List.mergeSort_perm (tidyPairs trees) fun a b => precedes a.1 b.1).map Prod.snd
  rw [tidyPairs_eq_map, List.map_map] at hperm
  rwa [tidyAll, inOrder, tidyPairs_eq_map]

theorem merged_cases (name : String) (children : List Tree) :
    (∃ inner below, children = [.dir inner below] ∧
      merged name children = .dir (name ++ "/" ++ inner) below) ∨
    merged name children = .dir name children := by
  unfold merged
  split
  · exact Or.inl ⟨_, _, rfl, rfl⟩
  · exact Or.inr rfl

theorem leaves_merged (name : String) (children : List Tree) :
    (merged name children).leaves = (dir name children).leaves := by
  rcases merged_cases name children with ⟨inner, below, rfl, hmerged⟩ | hmerged
  · rw [hmerged, leaves, leaves, leavesAll, leavesAll, List.append_nil, leaves, List.map_map]
    simp only [Path.components_slash, List.append_assoc]
    rfl
  · rw [hmerged]

theorem leavesAll_perm {trees trees' : List Tree} (h : trees.Perm trees') :
    (leavesAll trees).Perm (leavesAll trees') := by
  rw [leavesAll_eq_flatMap, leavesAll_eq_flatMap]
  exact h.flatMap_right _

mutual

theorem leaves_tidy (tree : Tree) : tree.tidy.leaves.Perm tree.leaves := by
  match tree with
  | file name issues => exact .refl _
  | dir name children =>
    have hall : (leavesAll (tidyAll children)).Perm (leavesAll children) :=
      (leavesAll_perm (tidyAll_perm children)).trans (leavesAll_map_tidy children)
    rw [tidy, leaves_merged, leaves, leaves]
    exact hall.map _

theorem leavesAll_map_tidy (trees : List Tree) :
    (leavesAll (trees.map tidy)).Perm (leavesAll trees) := by
  match trees with
  | [] => exact .refl _
  | tree :: rest => exact (leaves_tidy tree).append (leavesAll_map_tidy rest)

end

theorem leavesAll_tidyAll (trees : List Tree) :
    (leavesAll (tidyAll trees)).Perm (leavesAll trees) :=
  (leavesAll_perm (tidyAll_perm trees)).trans (leavesAll_map_tidy trees)

/-! ### The order of siblings -/

/-- What a tree is sorted by: the name of a file, the first component of a directory. -/
def label : Tree → String
  | file name _ => name
  | dir name _ => (Path.components name).headD ""

/-- Directories before files, each kind by the bytes of its labels, and no two trees begin with
the same component. -/
structure Before (a b : Tree) : Prop where
  dirs_first : a.isFile → b.isFile
  label_lt : a.isFile = b.isFile → encodeString a.label < encodeString b.label
  head_ne : (Path.components a.name).head? ≠ (Path.components b.name).head?

mutual

/-- Siblings are in order everywhere. -/
def Ordered : Tree → Prop
  | file _ _ => True
  | dir _ children => OrderedAll children

def OrderedAll : List Tree → Prop
  | [] => True
  | tree :: rest => tree.Ordered ∧ (∀ other ∈ rest, Before tree other) ∧ OrderedAll rest

end

theorem orderedAll_iff {trees : List Tree} :
    OrderedAll trees ↔ (∀ tree ∈ trees, tree.Ordered) ∧ trees.Pairwise Before := by
  induction trees with
  | nil => simp [OrderedAll]
  | cons tree rest ih =>
    rw [OrderedAll, ih, List.forall_mem_cons, List.pairwise_cons]
    tauto

theorem tidy_isFile (tree : Tree) : tree.tidy.isFile = tree.isFile := by
  cases tree with
  | file name issues => rfl
  | dir name children =>
    rw [tidy]
    rcases merged_cases name (inOrder (tidyPairs children)) with ⟨_, _, -, hmerged⟩ | hmerged
    · rw [hmerged]
      rfl
    · rw [hmerged]
      rfl

/-- Merged or not, the first component of a directory is its own name. -/
theorem merged_head {name : String} (h : '/' ∉ name.toList) (children : List Tree) :
    (Path.components (merged name children).name).head? = some name ∧
      (merged name children).label = name := by
  rcases merged_cases name children with ⟨inner, below, -, hmerged⟩ | hmerged
  · rw [hmerged, label, name_dir, Path.components_slash, Path.components_of_no_slash h]
    exact ⟨rfl, rfl⟩
  · rw [hmerged, label, name_dir, Path.components_of_no_slash h]
    exact ⟨rfl, rfl⟩

theorem WellFormed.tidy_head {tree : Tree} (h : tree.WellFormed) :
    (Path.components tree.tidy.name).head? = some tree.name ∧ tree.tidy.label = tree.name := by
  cases tree with
  | file name issues =>
    rw [tidy, label, name_file, Path.components_of_no_slash h.1]
    exact ⟨rfl, rfl⟩
  | dir name children => exact merged_head h.1 _

theorem merged_ordered {name : String} {children : List Tree} (h : OrderedAll children) :
    (merged name children).Ordered := by
  rcases merged_cases name children with ⟨inner, below, rfl, hmerged⟩ | hmerged
  · rw [hmerged]
    exact h.1
  · rw [hmerged]
    exact h

theorem precedes_trans (a b c : Tree) (hab : precedes a b = true) (hbc : precedes b c = true) :
    precedes a c = true := by
  unfold precedes at *
  cases ha : a.isFile <;> cases hb : b.isFile <;> cases hc : c.isFile <;> simp_all
  all_goals exact String.le_trans hab hbc

theorem precedes_total (a b : Tree) : (precedes a b || precedes b a) = true := by
  unfold precedes
  cases ha : a.isFile <;> cases hb : b.isFile <;> simp
  all_goals exact String.le_total _ _

/-- Siblings with different names come in a strict order. -/
theorem before_of_precedes {a b : Tree} (ha : a.WellFormed) (hb : b.WellFormed)
    (hne : a.name ≠ b.name) (h : precedes a b = true) : Before a.tidy b.tidy := by
  rw [precedes] at h
  refine ⟨?_, ?_, ?_⟩
  · rw [tidy_isFile, tidy_isFile]
    intro hfile
    cases hb : b.isFile with
    | true => rfl
    | false => simp [hfile, hb] at h
  · rw [tidy_isFile, tidy_isFile, ha.tidy_head.2, hb.tidy_head.2]
    intro hkind
    rw [if_pos hkind, decide_eq_true_eq] at h
    exact encodeString_lt (Std.lt_of_le_of_ne h hne)
  · rw [ha.tidy_head.1, hb.tidy_head.1]
    exact fun heq => hne (Option.some.inj heq)

theorem WellFormedAll.names {trees : List Tree} (h : WellFormedAll trees) :
    trees.Pairwise fun a b => a.name ≠ b.name := by
  induction trees with
  | nil => exact .nil
  | cons tree rest ih =>
    refine List.pairwise_cons.mpr ⟨fun other hother => (h.2.1 other hother).symm, ih h.2.2⟩

/-- Sorting puts well-formed trees in order. -/
theorem tidyAll_before {trees : List Tree} (h : WellFormedAll trees) :
    (tidyAll trees).Pairwise Before := by
  rw [tidyAll, inOrder, tidyPairs_eq_map, List.pairwise_map]
  have hperm := List.mergeSort_perm (trees.map fun tree => (tree, tree.tidy))
    fun a b => precedes a.1 b.1
  have hnames : ((trees.map fun tree => (tree, tree.tidy)).mergeSort
      fun a b => precedes a.1 b.1).Pairwise fun a b => a.1.name ≠ b.1.name := by
    rw [hperm.pairwise_iff fun hne => hne.symm, List.pairwise_map]
    exact h.names
  have hsorted := List.pairwise_mergeSort (fun a b c => precedes_trans a.1 b.1 c.1)
    (fun a b => precedes_total a.1 b.1) (trees.map fun tree => (tree, tree.tidy))
  refine (hnames.and hsorted).imp_of_mem fun {a b} ha hb hab => ?_
  obtain ⟨first, hfirst, rfl⟩ := List.mem_map.mp (hperm.mem_iff.mp ha)
  obtain ⟨second, hsecond, rfl⟩ := List.mem_map.mp (hperm.mem_iff.mp hb)
  exact before_of_precedes (h.of_mem hfirst) (h.of_mem hsecond) hab.1 hab.2

mutual

theorem WellFormed.tidy_ordered {tree : Tree} (h : tree.WellFormed) : tree.tidy.Ordered := by
  match tree, h with
  | file name issues, h => trivial
  | dir name children, h =>
    rw [tidy]
    refine merged_ordered (orderedAll_iff.mpr ⟨fun other hother => ?_, tidyAll_before h.2.2⟩)
    obtain ⟨child, hchild, rfl⟩ := List.mem_map.mp ((tidyAll_perm children).mem_iff.mp hother)
    exact WellFormedAll.tidy_ordered h.2.2 child hchild

theorem WellFormedAll.tidy_ordered {trees : List Tree} (h : WellFormedAll trees) :
    ∀ tree ∈ trees, tree.tidy.Ordered := by
  match trees, h with
  | [], h => simp
  | tree :: rest, h =>
    exact List.forall_mem_cons.mpr
      ⟨WellFormed.tidy_ordered h.1, WellFormedAll.tidy_ordered h.2.2⟩

end

theorem WellFormedAll.tidyAll_ordered {trees : List Tree} (h : WellFormedAll trees) :
    OrderedAll (tidyAll trees) := by
  refine orderedAll_iff.mpr ⟨fun other hother => ?_, tidyAll_before h⟩
  obtain ⟨tree, htree, rfl⟩ := List.mem_map.mp ((tidyAll_perm trees).mem_iff.mp hother)
  exact h.tidy_ordered tree htree

end Tree

end InlineAudit
