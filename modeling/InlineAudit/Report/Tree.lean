import InlineAudit.Path
import InlineAudit.Report

/-!
The issues of a report as a tree of directories and files. Issues are put in one after the other
along the components of their paths. A path that runs through a file has no place in the tree; an
issue whose path is already a directory is not kept.
-/

namespace InlineAudit

inductive Tree where
  | file (name : String) (issues : List Issue)
  | dir (name : String) (children : List Tree)
  deriving Inhabited

namespace Tree

def name : Tree → String
  | file name _ => name
  | dir name _ => name

def isFile : Tree → Bool
  | file _ _ => true
  | dir _ _ => false

/-- A chain of directories that ends in a file with one issue. -/
def branch (issue : Issue) : (first : String) → (rest : List String) → Tree
  | name, [] => .file name [issue]
  | name, next :: rest => .dir name [branch issue next rest]

mutual

/-- Puts an issue into the tree named by the first component of its path, where `rest` are the
other components. -/
def insertInto (issue : Issue) (rest : List String) : Tree → Option Tree
  | file name issues => if rest.isEmpty then some (.file name (issues ++ [issue])) else none
  | dir name children =>
    match rest with
    | [] => some (.dir name children)
    | next :: rest => (insertAmong issue next rest children).map (.dir name)

/-- Puts an issue among trees. There is no result when its path runs through a file. -/
def insertAmong (issue : Issue) (first : String) (rest : List String) :
    List Tree → Option (List Tree)
  | [] => some [branch issue first rest]
  | tree :: more =>
    if tree.name = first then (insertInto issue rest tree).map (· :: more)
    else (insertAmong issue first rest more).map (tree :: ·)

end

def insertIssue (trees : List Tree) (issue : Issue) : Option (List Tree) :=
  match Path.components issue.path with
  | [] => some trees
  | first :: rest => insertAmong issue first rest trees

/-- The trees of a list of issues. -/
def ofIssues? (issues : List Issue) : Option (List Tree) := issues.foldlM insertIssue []

mutual

def fileCount : Tree → Nat
  | file _ _ => 1
  | dir _ children => fileCountAll children

def fileCountAll : List Tree → Nat
  | [] => 0
  | tree :: rest => tree.fileCount + fileCountAll rest

end

mutual

def issueCount : Tree → Nat
  | file _ issues => issues.length
  | dir _ children => issueCountAll children

def issueCountAll : List Tree → Nat
  | [] => 0
  | tree :: rest => tree.issueCount + issueCountAll rest

end

/-- The order of siblings: directories first, and each kind by name. -/
def precedes (a b : Tree) : Bool :=
  if a.isFile = b.isFile then a.name ≤ b.name else b.isFile

/-- A directory whose only child is a directory becomes one with it, under both names. -/
def merged (name : String) : List Tree → Tree
  | [.dir inner children] => .dir (name ++ "/" ++ inner) children
  | children => .dir name children

/-- Second components in the order of the first ones. -/
def inOrder (pairs : List (Tree × Tree)) : List Tree :=
  (pairs.mergeSort fun a b => precedes a.1 b.1).map (·.2)

mutual

/-- A tree as it is shown: siblings in order and chains of directories merged. -/
def tidy : Tree → Tree
  | file name issues => .file name issues
  | dir name children => merged name (inOrder (tidyPairs children))

/-- Each tree with its tidy form; the order of siblings is that of the unmerged names. -/
def tidyPairs : List Tree → List (Tree × Tree)
  | [] => []
  | tree :: rest => (tree, tree.tidy) :: tidyPairs rest

end

def tidyAll (trees : List Tree) : List Tree := inOrder (tidyPairs trees)

end Tree

end InlineAudit
