import InlineAudit.Json
import InlineAudit.Report

/-!
Findings, issues and reports as JSON. Fields that say nothing are left out: an empty list of
rules, a directive that is not blanket, an absent reference, no skipped files.
-/

namespace InlineAudit

open Json

/-- A field that is left out when its list is empty. -/
def listField (key : String) (texts : List String) : List (String × Value) :=
  if texts.isEmpty then [] else [(key, .strings texts)]

/-- A field that is left out when it does not hold. -/
def flagField (key : String) (flag : Bool) : List (String × Value) :=
  if flag then [(key, .bool true)] else []

def Finding.toJson (finding : Finding) : Value :=
  .obj ([("report_line", .int finding.reportLine), ("evidence_line", .int finding.evidenceLine),
    ("category", .str finding.category.name), ("message", .str finding.message)]
    ++ listField "rules" finding.rules ++ flagField "blanket" finding.blanket)

def Issue.toJson (issue : Issue) : Value :=
  .obj ([("path", .str issue.path), ("language", .str issue.language),
    ("repository", .str issue.repository), ("rule", .str issue.rule), ("line", .int issue.line),
    ("evidence_line", .int issue.evidenceLine), ("category", .str issue.category.name),
    ("message", .str issue.message)]
    ++ listField "rules" issue.rules ++ flagField "blanket" issue.blanket)

def Report.toJson (report : Report) : Value :=
  .obj ([("root", .str report.root)]
    ++ (if report.diffRef = "" then [] else [("diff_ref", .str report.diffRef)])
    ++ [("files_scanned", .int report.filesScanned)]
    ++ listField "skipped" report.skipped
    ++ [("issues", .arr (report.issues.map Issue.toJson))])

/-- A report as a JSON document with a line break at its end. -/
def Report.json (report : Report) : String := document report.toJson ++ "\n"

def Repository.toJson (repository : Repository) : Value :=
  .obj [("key", .str repository.key), ("name", .str repository.name),
    ("language", .str repository.language)]

end InlineAudit
