import InlineAudit.Report.Style
import InlineAudit.Report.Tree

/-!
A report as text for people: a box with the totals, the tree of files with their issues, and the
files that could not be read.
-/

namespace InlineAudit

open Text

/-- The styles of the parts of a report. -/
inductive Part where
  | title
  | dir
  | file
  | dim
  | line
  | warn
  | ok
  | category (c : Category)
  deriving DecidableEq, Repr

def categoryColours : List (Category × Nat) :=
  [(.bareMarker, 9), (.annotationGeneric, 13), (.annotationVariant, 5),
   (.bracketAttribute, 3), (.angleAttribute, 6)]

/-- The style of a part; a category that is not known is dim. -/
def Part.style : Part → Style
  | title => { bold := true }
  | dir => { bold := true, colour := some 12 }
  | file => { bold := true }
  | dim => { faint := true }
  | line => { colour := some 14 }
  | warn => { colour := some 11 }
  | ok => { colour := some 10 }
  | category c =>
    match categoryColours.lookup c with
    | some colour => { colour := some colour }
    | none => { faint := true }

/-- A part of a report as an output shows it. -/
def Part.show (finish : Finish) (part : Part) (text : String) : String :=
  part.style.render finish text

/-- A number with its noun. -/
def plural (n : Int) (noun : String) : String :=
  toString n ++ " " ++ noun ++ (if n = 1 then "" else "s")

namespace Report

/-- The row of an issue. -/
def issueRow (finish : Finish) (issue : Issue) : String :=
  Part.line.show finish ("L" ++ toString issue.evidenceLine) ++ " "
    ++ (Part.category issue.category).show finish issue.category.name ++ " " ++ issue.message
    ++ (if issue.line = issue.evidenceLine then ""
        else " " ++ Part.dim.show finish ("(reported on L" ++ toString issue.line ++ ")"))

/-- The language that the first issue of a file names. -/
def languageOf (issues : List Issue) : String := (issues.head?.map (·.language)).getD ""

mutual

/-- The rows of a tidy tree: `head` stands before its own row and `indent` before those below. -/
def treeRows (finish : Finish) (head indent : String) : Tree → List String
  | .dir name children =>
    (head ++ Part.dir.show finish (name ++ "/") ++ " "
      ++ Part.dim.show finish ("(" ++ plural (Tree.fileCountAll children) "file" ++ ", "
        ++ plural (Tree.issueCountAll children) "finding" ++ ")"))
      :: forestRows finish indent children
  | .file name issues =>
    (head ++ Part.file.show finish name ++ " "
      ++ Part.dim.show finish ("(" ++ Repository.keyOf (languageOf issues) ++ ")"))
      :: issues.map fun issue => indent ++ "  " ++ issueRow finish issue

/-- The rows of sibling trees. -/
def forestRows (finish : Finish) (indent : String) : List Tree → List String
  | [] => []
  | [tree] => treeRows finish (indent ++ "└── ") (indent ++ "    ") tree
  | tree :: rest =>
    treeRows finish (indent ++ "├── ") (indent ++ "│   ") tree ++ forestRows finish indent rest

end

/-- The line with the totals. -/
def statsLine (report : Report) : String :=
  (if report.diffRef = "" then "Files: " ++ toString report.filesScanned
   else "Changed files: " ++ toString report.filesScanned ++ " vs " ++ report.diffRef)
    ++ " | Findings: " ++ toString report.issues.length ++ " in "
    ++ plural report.filesWithIssues "file"

/-- The known categories that were counted, with their counts. -/
def familyLine (counts : List (Category × Nat)) : String :=
  let countOf (category : Category) : Nat := (counts.lookup category).getD 0
  join ", " ((Category.all.filter (countOf · > 0)).map fun category =>
    category.name ++ " (" ++ toString (countOf category) ++ ")")

/-- A text and as many spaces as it is short of a number of characters. -/
def padTo (width : Nat) (text : String) : String :=
  text ++ String.ofList (List.replicate (width - text.length) ' ')

def rule (width : Nat) : String := String.ofList (List.replicate width '─')

/-- The box with the title in its upper border and the totals inside. -/
def boxRows (finish : Finish) (title stats family : String) : List String :=
  let width := max 64 (max (cells stats.toList + 4) (cells family.toList + 4))
  let title := " " ++ title ++ " "
  let spare := width - cells title.toList
  let row (text : String) := "│ " ++ padTo (width - 2) text ++ " │"
  ["╭" ++ rule (spare / 2) ++ Part.title.show finish title ++ rule (spare - spare / 2) ++ "╮",
   row stats] ++ (if family = "" then [] else [row family]) ++ ["╰" ++ rule width ++ "╯"]

def skippedRows (finish : Finish) (report : Report) : List String :=
  if report.skipped.isEmpty then []
  else "" :: Part.warn.show finish ("⚠ " ++ plural report.skipped.length "file"
      ++ " could not be read:") :: report.skipped.map ("  " ++ ·)

/-- All rows of a report. There are none when the path of an issue runs through a file. -/
def rows? (finish : Finish) (report : Report) : Option (List String) :=
  let issueRows? :=
    if report.issues.isEmpty then some [Part.ok.show finish "✓ No inline suppressions found"]
    else (Tree.ofIssues? report.issues).map fun trees =>
      Part.title.show finish (Path.base report.root) :: forestRows finish "" (Tree.tidyAll trees)
  issueRows?.map fun issueRows =>
    boxRows finish (Path.base report.root) report.statsLine (familyLine report.countByCategory)
      ++ issueRows ++ report.skippedRows finish

/-- A report as text, unless the path of an issue runs through a file. -/
def text? (finish : Finish) (report : Report) : Option String :=
  (report.rows? finish).map fun rows => String.join (rows.map (· ++ "\n"))

end Report

end InlineAudit
