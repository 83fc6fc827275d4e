import InlineAudit.Report.TreeText

/-!
The rows of a tree and what they say. A row is written behind one rail for each row that it stands
under, so the tree can be read back from its rows: `entries` keeps the names of the directories that
are open, and closes as many of them as a row has fewer rails. Reading back what was written gives
the directories and files of the tree.
-/

namespace InlineAudit

open Text

/-- A row before it is written. The rows it stands under are given by whether they are the last of
their siblings. -/
inductive Row where
  | dir (above : List Bool) (last : Bool) (name : String) (files issues : Nat)
  | file (above : List Bool) (last : Bool) (name language : String)
  | issue (above : List Bool) (issue : Issue)

namespace Row

/-- What stands before a row, from the left. -/
def rails (above : List Bool) : String :=
  String.join (above.map fun last => if last then "    " else "│   ")

def connector (last : Bool) : String := if last then "└── " else "├── "

def text (finish : Finish) : Row → String
  | dir above last name files issues =>
    rails above ++ connector last ++ Part.dir.show finish (name ++ "/") ++ " "
      ++ Part.dim.show finish ("(" ++ plural files "file" ++ ", " ++ plural issues "finding" ++ ")")
  | file above last name language =>
    rails above ++ connector last ++ Part.file.show finish name ++ " "
      ++ Part.dim.show finish ("(" ++ Repository.keyOf language ++ ")")
  | issue above found => rails above ++ "  " ++ Report.issueRow finish found

def isIssue : Row → Bool
  | issue _ _ => true
  | _ => false

theorem rails_concat (above : List Bool) (last : Bool) :
    rails (above ++ [last]) = rails above ++ if last then "    " else "│   " := by
  simp [rails]

end Row

namespace Tree

mutual

def rows (above : List Bool) (last : Bool) : Tree → List Row
  | file name issues =>
    .file above last name (Report.languageOf issues) :: issues.map (.issue (above ++ [last]))
  | dir name children =>
    .dir above last name (fileCountAll children) (issueCountAll children)
      :: rowsAll (above ++ [last]) children

def rowsAll (above : List Bool) : List Tree → List Row
  | [] => []
  | tree :: rest => tree.rows above rest.isEmpty ++ rowsAll above rest

end

end Tree

namespace Report

theorem forestRows_cons (finish : Finish) (indent : String) (tree : Tree) (rest : List Tree) :
    forestRows finish indent (tree :: rest) =
      treeRows finish (indent ++ Row.connector rest.isEmpty)
        (indent ++ if rest.isEmpty then "    " else "│   ") tree ++
      forestRows finish indent rest := by
  cases rest with
  | nil => simp [forestRows, Row.connector]
  | cons next rest => rw [forestRows] <;> simp [Row.connector]

mutual

/-- The text of a tree is that of its rows. -/
theorem treeRows_eq (finish : Finish) (above : List Bool) (last : Bool) (tree : Tree) :
    treeRows finish (Row.rails above ++ Row.connector last) (Row.rails (above ++ [last])) tree =
      (tree.rows above last).map (Row.text finish) := by
  match tree with
  | .file name issues => simp [treeRows, Tree.rows, Row.text]
  | .dir name children =>
    rw [treeRows, Tree.rows, List.map_cons, forestRows_eq, Row.text]

theorem forestRows_eq (finish : Finish) (above : List Bool) (trees : List Tree) :
    forestRows finish (Row.rails above) trees =
      (Tree.rowsAll above trees).map (Row.text finish) := by
  match trees with
  | [] => simp [forestRows, Tree.rowsAll]
  | tree :: rest =>
    rw [forestRows_cons, ← Row.rails_concat, treeRows_eq, forestRows_eq, Tree.rowsAll,
      List.map_append]

end

end Report

/-! ### Reading rows -/

/-- A directory or file as its rows show it, below the directories of the given names. -/
inductive Entry where
  | dir (above : List String) (name : String) (files issues : Nat)
  | file (above : List String) (name : String) (issues : List Issue)

/-- The issues that come next, behind the given number of rails. -/
def leadingIssues (depth : Nat) : List Row → List Issue
  | .issue above issue :: rest =>
    if above.length = depth then issue :: leadingIssues depth rest else []
  | _ => []

/-- The directories and files of rows. Of the directories that are open, given by their names, a row
stands in as many as it has rails, and it is not read if it has more. -/
def entries (names : List String) : List Row → List Entry
  | [] => []
  | .dir above _ name files issues :: rest =>
    if above.length ≤ names.length then
      .dir (names.take above.length) name files issues
        :: entries (names.take above.length ++ [name]) rest
    else entries names rest
  | .file above _ name _ :: rest =>
    if above.length ≤ names.length then
      .file (names.take above.length) name (leadingIssues (above.length + 1) rest)
        :: entries names rest
    else entries names rest
  | .issue _ _ :: rest => entries names rest

namespace Tree

mutual

/-- The directories and files of a tree, from above. -/
def entries (above : List String) : Tree → List Entry
  | file name issues => [.file above name issues]
  | dir name children =>
    .dir above name (fileCountAll children) (issueCountAll children)
      :: entriesAll (above ++ [name]) children

def entriesAll (above : List String) : List Tree → List Entry
  | [] => []
  | tree :: rest => tree.entries above ++ entriesAll above rest

end

end Tree

theorem leadingIssues_issues (above : List Bool) (issues : List Issue) {rest : List Row}
    (hrest : leadingIssues above.length rest = []) :
    leadingIssues above.length (issues.map (.issue above) ++ rest) = issues := by
  induction issues with
  | nil => exact hrest
  | cons issue issues ih =>
    rw [List.map_cons, List.cons_append, leadingIssues, if_pos rfl, ih]

theorem entries_issues (names : List String) (above : List Bool) (issues : List Issue)
    (rest : List Row) :
    entries names (issues.map (.issue above) ++ rest) = entries names rest := by
  induction issues with
  | nil => rfl
  | cons issue issues ih => rw [List.map_cons, List.cons_append, entries, ih]

theorem leadingIssues_rowsAll (depth : Nat) (above : List Bool) (trees : List Tree)
    {rest : List Row} (hrest : leadingIssues depth rest = []) :
    leadingIssues depth (Tree.rowsAll above trees ++ rest) = [] := by
  cases trees with
  | nil => exact hrest
  | cons tree more => cases tree <;> rfl

mutual

/-- Rows are read back as the tree they were written for, whatever was open below its directories
before; what is open below them afterwards does not matter to the rows that follow. -/
theorem entries_rows (tree : Tree) (above : List Bool) (last : Bool) (names deeper : List String)
    (hlength : above.length = names.length) {rest : List Row}
    (hrest : ∀ depth, leadingIssues depth rest = []) :
    ∃ deeper', entries (names ++ deeper) (tree.rows above last ++ rest) =
      tree.entries names ++ entries (names ++ deeper') rest := by
  have hopen : above.length ≤ (names ++ deeper).length := by
    rw [hlength, List.length_append]
    omega
  have htake : (names ++ deeper).take above.length = names := by
    rw [hlength, List.take_left']
    rfl
  match tree with
  | .file name issues =>
    refine ⟨deeper, ?_⟩
    have hbelow : (above ++ [last]).length = above.length + 1 := by simp
    rw [Tree.rows, List.cons_append, entries, if_pos hopen, htake, ← hbelow,
      leadingIssues_issues _ _ (hrest _), entries_issues]
    rfl
  | .dir name children =>
    obtain ⟨deeper', hread⟩ := entries_rowsAll children (above ++ [last]) (names ++ [name]) []
      (by simp [hlength]) hrest
    refine ⟨name :: deeper', ?_⟩
    rw [List.append_nil] at hread
    rw [Tree.rows, List.cons_append, entries, if_pos hopen, htake, hread, Tree.entries]
    simp

theorem entries_rowsAll (trees : List Tree) (above : List Bool) (names deeper : List String)
    (hlength : above.length = names.length) {rest : List Row}
    (hrest : ∀ depth, leadingIssues depth rest = []) :
    ∃ deeper', entries (names ++ deeper) (Tree.rowsAll above trees ++ rest) =
      Tree.entriesAll names trees ++ entries (names ++ deeper') rest := by
  match trees with
  | [] => exact ⟨deeper, rfl⟩
  | tree :: more =>
    obtain ⟨middle, htree⟩ := entries_rows tree above more.isEmpty names deeper hlength
      fun depth => leadingIssues_rowsAll depth above more (hrest depth)
    obtain ⟨deeper', hmore⟩ := entries_rowsAll more above names middle hlength hrest
    refine ⟨deeper', ?_⟩
    rw [Tree.rowsAll, List.append_assoc, htree, hmore, Tree.entriesAll, List.append_assoc]

end

theorem entries_nil_rowsAll (trees : List Tree) :
    entries [] (Tree.rowsAll [] trees) = Tree.entriesAll [] trees := by
  have hend : ∀ depth, leadingIssues depth [] = [] := fun _ => rfl
  obtain ⟨deeper, hread⟩ := entries_rowsAll trees [] [] [] rfl hend
  simpa [entries] using hread

end InlineAudit
