import InlineAudit.Detect.Reference
import InlineAudit.Report.TreeText
import InlineAudit.Rule

/-!
The listings that can be asked for without a scan: the audited languages, and the rules that a
text names.
-/

namespace InlineAudit

/-- The table of the audited languages, one on each line. -/
def languageTable : String :=
  String.join (Repository.all.map fun repository =>
    Report.padTo 8 repository.language ++ " "
      ++ Report.padTo 12 (Language.display repository.language) ++ " " ++ repository.key ++ "\n")

/-- What is said when a text names no rule. -/
def noReferences : String := "No rule references found"

/-- The rule references of a text, or that there are none. -/
def referenceLines (payload : String) : List String :=
  match Detect.ruleReferences payload.toList with
  | [] => [noReferences]
  | references => references

end InlineAudit
