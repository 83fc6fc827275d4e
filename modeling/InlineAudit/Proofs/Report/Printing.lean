import InlineAudit.Proofs.Report.Outline
import Mathlib.Algebra.BigOperators.Group.List.Basic

/-!
Printing trees whose directories hold their children in no order. The children of a directory are
gone through in any order and put into order by any sort, and to count its files they are gone
through again, in any other order. If siblings have different names, whatever is printed are the
rows of the tidy trees.
-/

namespace InlineAudit.Tree

/-- Trees in an order that a sort may leave them in. -/
structure SortOf (order trees : List Tree) : Prop where
  perm : order.Perm trees
  sorted : order.Pairwise fun a b => precedes a b

/-- The numbers of files and of issues, counted with the children of each directory in any order. -/
inductive Tallies : List Tree → Nat → Nat → Prop
  | nil : Tallies [] 0 0
  | file {name : String} {issues : List Issue} {rest : List Tree} {files found : Nat}
      (hrest : Tallies rest files found) :
      Tallies (file name issues :: rest) (1 + files) (issues.length + found)
  | dir {name : String} {children order rest : List Tree} {inside found files' found' : Nat}
      (horder : order.Perm children) (hinside : Tallies order inside found)
      (hrest : Tallies rest files' found') :
      Tallies (dir name children :: rest) (inside + files') (found + found')

/-- As long as the only child of a directory is a directory, the two are one, under both names. -/
inductive Flattens : (name : String) → (children : List Tree) →
    (shown : String) → (below : List Tree) → Prop
  | stop {name : String} {children : List Tree}
      (hstop : ∀ inner grandchildren, children ≠ [dir inner grandchildren]) :
      Flattens name children name children
  | step {name inner shown : String} {grandchildren below : List Tree}
      (hstep : Flattens (name ++ "/" ++ inner) grandchildren shown below) :
      Flattens name [dir inner grandchildren] shown below

/-- The rows of sorted trees. -/
inductive Prints : List Bool → List Tree → List Row → Prop
  | nil {above : List Bool} : Prints above [] []
  | file {above : List Bool} {name : String} {issues : List Issue} {rest : List Tree}
      {rows : List Row} (hrest : Prints above rest rows) :
      Prints above (file name issues :: rest)
        (.file above rest.isEmpty name (Report.languageOf issues)
          :: issues.map (.issue (above ++ [rest.isEmpty])) ++ rows)
  | dir {above : List Bool} {name shown : String} {children below counted order rest : List Tree}
      {files found : Nat} {inside rows : List Row} (hflat : Flattens name children shown below)
      (hcounted : counted.Perm below) (htally : Tallies counted files found)
      (horder : SortOf order below) (hinside : Prints (above ++ [rest.isEmpty]) order inside)
      (hrest : Prints above rest rows) :
      Prints above (dir name children :: rest)
        (.dir above rest.isEmpty shown files found :: inside ++ rows)

/-! ### Any sort -/

theorem wellFormedAll_iff {trees : List Tree} :
    WellFormedAll trees ↔ (∀ tree ∈ trees, tree.WellFormed) ∧
      trees.Pairwise fun a b => a.name ≠ b.name := by
  refine ⟨fun h => ⟨fun _ => h.of_mem, h.names⟩, ?_⟩
  rintro ⟨hall, hnames⟩
  induction trees with
  | nil => trivial
  | cons tree rest ih =>
    obtain ⟨htree, hrest⟩ := List.forall_mem_cons.mp hall
    obtain ⟨hname, hnames⟩ := List.pairwise_cons.mp hnames
    exact ⟨htree, fun other hother => (hname other hother).symm, ih hrest hnames⟩

theorem WellFormedAll.perm {trees trees' : List Tree} (h : WellFormedAll trees)
    (hperm : trees'.Perm trees) : WellFormedAll trees' := by
  obtain ⟨hall, hnames⟩ := wellFormedAll_iff.mp h
  refine wellFormedAll_iff.mpr ⟨fun tree htree => hall tree (hperm.mem_iff.mp htree), ?_⟩
  exact (hperm.pairwise_iff fun hne => hne.symm).mpr hnames

theorem name_eq_of_precedes {a b : Tree} (hab : precedes a b) (hba : precedes b a) :
    a.name = b.name := by
  unfold precedes at hab hba
  by_cases hkind : a.isFile = b.isFile
  · rw [if_pos hkind, decide_eq_true_eq] at hab
    rw [if_pos hkind.symm, decide_eq_true_eq] at hba
    exact String.le_antisymm hab hba
  · rw [if_neg hkind] at hab
    rw [if_neg (Ne.symm hkind)] at hba
    exact absurd (hba.trans hab.symm) hkind

namespace SortOf

variable {order order' trees : List Tree}

theorem mergeSort (trees : List Tree) : SortOf (trees.mergeSort precedes) trees where
  perm := List.mergeSort_perm trees precedes
  sorted := List.pairwise_mergeSort precedes_trans precedes_total trees

/-- All sorts agree on siblings. -/
theorem unique (h : SortOf order trees) (h' : SortOf order' trees) (hwf : WellFormedAll trees) :
    order = order' := by
  -- with different names, what is in order is strictly so
  have hstrict := h.sorted.and (hwf.perm h.perm).names
  have hstrict' := h'.sorted.and (hwf.perm h'.perm).names
  refine List.Perm.eq_of_pairwise ?_ hstrict hstrict' (h.perm.trans h'.perm.symm)
  intro a b _ _ hab hba
  exact absurd (name_eq_of_precedes hab.1 hba.1) hab.2

theorem tidyAll_eq (h : SortOf order trees) (hwf : WellFormedAll trees) :
    tidyAll trees = order.map tidy := by
  obtain rfl := (mergeSort trees).unique h hwf
  have hpairs : (trees.mergeSort precedes).map (fun tree => (tree, tree.tidy)) =
      (trees.map fun tree => (tree, tree.tidy)).mergeSort fun a b => precedes a.1 b.1 :=
    List.map_mergeSort fun _ _ _ _ => rfl
  rw [tidyAll, inOrder, tidyPairs_eq_map, ← hpairs, List.map_map]
  rfl

end SortOf

/-! ### Any count -/

theorem counts_eq_of_leaves {trees trees' : List Tree}
    (h : (leavesAll trees).Perm (leavesAll trees')) :
    fileCountAll trees = fileCountAll trees' ∧ issueCountAll trees = issueCountAll trees' := by
  rw [fileCountAll_eq, fileCountAll_eq, issueCountAll_eq, issueCountAll_eq]
  exact ⟨h.length_eq, (h.map _).sum_eq⟩

theorem Tallies.eq {trees : List Tree} {files found : Nat} (h : Tallies trees files found) :
    files = fileCountAll trees ∧ found = issueCountAll trees := by
  induction h with
  | nil => exact ⟨rfl, rfl⟩
  | file _ ih => exact ⟨congrArg (1 + ·) ih.1, congrArg (_ + ·) ih.2⟩
  | dir horder _ _ ihinside ihrest =>
    obtain ⟨hfiles, hfound⟩ := counts_eq_of_leaves (leavesAll_perm horder)
    rw [ihinside.1, ihinside.2, ihrest.1, ihrest.2, hfiles, hfound]
    exact ⟨rfl, rfl⟩

mutual

theorem tallies_cons (tree : Tree) {rest : List Tree} {files found : Nat}
    (h : Tallies rest files found) :
    Tallies (tree :: rest) (tree.fileCount + files) (tree.issueCount + found) := by
  match tree with
  | file name issues => exact .file h
  | dir name children => exact .dir (.refl _) (tallies_self children) h

theorem tallies_self (trees : List Tree) :
    Tallies trees (fileCountAll trees) (issueCountAll trees) := by
  match trees with
  | [] => exact .nil
  | tree :: rest => exact tallies_cons tree (tallies_self rest)

end

/-! ### Merging -/

theorem tidyAll_singleton (tree : Tree) : tidyAll [tree] = [tree.tidy] :=
  List.perm_singleton.mp (tidyAll_perm [tree])

theorem merged_merged (name inner : String) (children : List Tree) :
    merged name [merged inner children] = merged (name ++ "/" ++ inner) children := by
  match children with
  | [] => rfl
  | [file _ _] => rfl
  | [dir _ _] => simp [merged, String.append_assoc]
  | _ :: _ :: _ => simp [merged]

/-- Sorting and merging make no directory the only child. -/
theorem exists_of_tidyAll_eq {children : List Tree} {inner : String} {below : List Tree}
    (h : tidyAll children = [dir inner below]) :
    ∃ name grandchildren, children = [dir name grandchildren] := by
  have hperm := tidyAll_perm children
  rw [h] at hperm
  obtain ⟨child, rfl, hchild⟩ := List.map_eq_singleton_iff.mp (List.singleton_perm.mp hperm).symm
  have hkind := tidy_isFile child
  rw [hchild] at hkind
  cases child with
  | file name issues => cases hkind
  | dir name grandchildren => exact ⟨name, grandchildren, rfl⟩

namespace Flattens

variable {name shown : String} {children below : List Tree}

theorem wellFormed (h : Flattens name children shown below) (hwf : WellFormedAll children) :
    WellFormedAll below := by
  induction h with
  | stop _ => exact hwf
  | step _ ih => exact ih hwf.1.2.2

/-- What is shown as one is merged in the tidy tree. -/
theorem merged_tidyAll (h : Flattens name children shown below) :
    merged name (tidyAll children) = dir shown (tidyAll below) := by
  induction h with
  | @stop name children hstop =>
    rcases merged_cases name (tidyAll children) with ⟨_, _, hsingle, -⟩ | hmerged
    · obtain ⟨inner, grandchildren, hchildren⟩ := exists_of_tidyAll_eq hsingle
      exact absurd hchildren (hstop inner grandchildren)
    · exact hmerged
  | step _ ih =>
    rw [tidyAll_singleton, tidy, ← tidyAll, merged_merged, ih]

end Flattens

/-! ### Any printing -/

theorem Prints.eq {above : List Bool} {order : List Tree} {rows : List Row}
    (h : Prints above order rows) (hwf : WellFormedAll order) :
    rows = rowsAll above (order.map tidy) := by
  induction h with
  | nil => rfl
  | file _ ih =>
    rw [ih hwf.2.2, List.map_cons, rowsAll, List.isEmpty_map, tidy, Tree.rows]
  | @dir above name shown children below counted order rest files found inside rows hflat hcounted
      htally horder _ _ ihinside ihrest =>
    have hbelow := hflat.wellFormed hwf.1.2.2
    have hinside := ihinside (hbelow.perm horder.perm)
    -- below the merged directories there is one order only, which the tidy tree has as well
    rw [← horder.tidyAll_eq hbelow] at hinside
    obtain ⟨hfiles, hfound⟩ := counts_eq_of_leaves
      ((leavesAll_perm hcounted).trans (leavesAll_tidyAll below).symm)
    rw [htally.eq.1, htally.eq.2, ihrest hwf.2.2, List.map_cons, rowsAll, List.isEmpty_map, tidy,
      ← tidyAll, hflat.merged_tidyAll, Tree.rows, hinside, hfiles, hfound]

/-! ### Something is printed -/

/-- A directory can be printed, under whatever name it is merged into. -/
def Printable : Tree → Prop
  | file _ _ => True
  | dir _ children => ∀ name, ∃ shown below order, Flattens name children shown below ∧
      SortOf order below ∧ ∀ above, ∃ rows, Prints above order rows

theorem exists_prints {trees : List Tree} (h : ∀ tree ∈ trees, tree.Printable)
    (above : List Bool) : ∃ rows, Prints above trees rows := by
  induction trees with
  | nil => exact ⟨[], .nil⟩
  | cons tree rest ih =>
    obtain ⟨htree, hrest⟩ := List.forall_mem_cons.mp h
    obtain ⟨rows, hrows⟩ := ih hrest
    cases tree with
    | file name issues => exact ⟨_, .file hrows⟩
    | dir name children =>
      obtain ⟨shown, below, order, hflat, horder, hprints⟩ := htree name
      obtain ⟨inside, hinside⟩ := hprints (above ++ [rest.isEmpty])
      exact ⟨_, .dir hflat (.refl below) (tallies_self below) horder hinside hrows⟩

theorem printable_dir (name : String) {children : List Tree}
    (h : ∀ child ∈ children, child.Printable) : (dir name children).Printable := by
  intro name
  by_cases honly : ∃ inner grandchildren, children = [dir inner grandchildren]
  · obtain ⟨inner, grandchildren, rfl⟩ := honly
    obtain ⟨shown, below, order, hflat, hprints⟩ :=
      h (dir inner grandchildren) List.mem_cons_self (name ++ "/" ++ inner)
    exact ⟨shown, below, order, .step hflat, hprints⟩
  · have horder := SortOf.mergeSort children
    refine ⟨name, children, _, .stop ?_, horder, ?_⟩
    · exact fun inner grandchildren hchildren => honly ⟨inner, grandchildren, hchildren⟩
    · exact exists_prints fun child hchild => h child (horder.perm.mem_iff.mp hchild)

mutual

theorem printable (tree : Tree) : tree.Printable := by
  match tree with
  | file name issues => trivial
  | dir name children => exact printable_dir name (printable_all children)

theorem printable_all (trees : List Tree) : ∀ tree ∈ trees, tree.Printable := by
  match trees with
  | [] => simp
  | tree :: rest => exact List.forall_mem_cons.mpr ⟨printable tree, printable_all rest⟩

end

/-- Whatever the orders and the sort are, the rows of the tidy trees are printed. -/
theorem exists_prints_iff {trees : List Tree} (h : WellFormedAll trees) (above : List Bool)
    (rows : List Row) :
    (∃ order, SortOf order trees ∧ Prints above order rows) ↔
      rows = rowsAll above (tidyAll trees) := by
  have heq : ∀ order rows, SortOf order trees → Prints above order rows →
      rows = rowsAll above (tidyAll trees) := by
    intro order rows horder hprints
    rw [horder.tidyAll_eq h]
    exact hprints.eq (h.perm horder.perm)
  constructor
  · rintro ⟨order, horder, hprints⟩
    exact heq order rows horder hprints
  · rintro rfl
    have horder := SortOf.mergeSort trees
    obtain ⟨rows, hrows⟩ := exists_prints (fun tree _ => printable tree) above
    exact ⟨_, horder, heq _ rows horder hrows ▸ hrows⟩

end InlineAudit.Tree
