import InlineAudit.Finding
import InlineAudit.Rule

/-!
Issues and reports. An issue is a finding bound to its file and to the repository of the file's
language; a report collects the issues of a project.
-/

namespace InlineAudit

structure Issue where
  path : String
  language : String
  repository : String
  rule : String
  /-- Where the issue is reported. -/
  line : Int
  /-- Where the directive is. -/
  evidenceLine : Int
  category : Category
  message : String
  rules : List String := []
  blanket : Bool := false
  deriving DecidableEq, Repr, Inhabited

/-- A finding of a file as an issue in the repository of the file's language. -/
def Finding.toIssue (path language : String) (finding : Finding) : Issue :=
  { path := path
    language := language
    repository := Repository.keyOf language
    rule := Rule.key
    line := finding.reportLine
    evidenceLine := finding.evidenceLine
    category := finding.category
    message := finding.message
    rules := finding.rules
    blanket := finding.blanket }

def issuesOf (path language : String) (findings : List Finding) : List Issue :=
  findings.map (·.toIssue path language)

structure Report where
  root : String
  /-- The git reference the files were compared with, or empty. -/
  diffRef : String := ""
  filesScanned : Int := 0
  /-- The files that could not be read. -/
  skipped : List String := []
  issues : List Issue := []
  deriving DecidableEq, Repr, Inhabited

namespace Report

/-- The categories that occur, with the number of their issues, in the order they first occur. -/
def countByCategory (report : Report) : List (Category × Nat) :=
  let categories := report.issues.map (·.category)
  categories.eraseDups.map fun category => (category, categories.count category)

/-- The number of issues of one category. -/
def countOf (report : Report) (category : Category) : Nat :=
  (report.issues.map (·.category)).count category

/-- The number of files with at least one issue. -/
def filesWithIssues (report : Report) : Nat := (report.issues.map (·.path)).eraseDups.length

end Report

end InlineAudit
