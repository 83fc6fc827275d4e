import InlineAudit.Report
import InlineAudit.Text.Shortest

/-!
Counters of what audits did: files read, directives found and files that could not be read. Every
counted occurrence is kept with its labels, and the value of a counter is the number of its
occurrences.
-/

namespace InlineAudit

open Text

structure Metrics where
  /-- The language of each file read. -/
  files : List String := []
  /-- Category and language of each directive found. -/
  directives : List (String × String) := []
  readErrors : Nat := 0
  deriving DecidableEq, Repr, Inhabited

namespace Metrics

/-- Counts a file of a language with the issues found in it. -/
def countFile (metrics : Metrics) (language : String) (issues : List Issue) : Metrics :=
  { metrics with
    files := metrics.files ++ [language]
    directives := metrics.directives ++ issues.map fun issue => (issue.category.name, language) }

def countReadError (metrics : Metrics) : Metrics :=
  { metrics with readErrors := metrics.readErrors + 1 }

/-- The number of files read in a language. -/
def filesIn (metrics : Metrics) (language : String) : Nat := metrics.files.count language

/-- The number of directives found of a category, in files of a language. -/
def directivesIn (metrics : Metrics) (language : String) (category : Category) : Nat :=
  metrics.directives.count (category.name, language)

/-- One character of a label value. -/
def labelChar (c : Char) : List Char :=
  match c with
  | '\\' => ['\\', '\\']
  | '"' => ['\\', '"']
  | '\n' => ['\\', 'n']
  | c => [c]

def label (name value : String) : String :=
  name ++ "=\"" ++ String.ofList (value.toList.flatMap labelChar) ++ "\""

/-- One line of a counter. The value is written as a double. -/
def sample (name : String) (labels : List String) (value : Nat) : String :=
  name ++ (if labels.isEmpty then "" else "\x7b" ++ join "," labels ++ "\x7d")
    ++ " " ++ String.ofList (doubleChars value) ++ "\n"

/-- The lines of a counter under its explanation; a counter without lines is left out. -/
def family (name explanation : String) (samples : List String) : String :=
  if samples.isEmpty then ""
  else "# HELP " ++ name ++ " " ++ explanation ++ "\n# TYPE " ++ name ++ " counter\n"
    ++ String.join samples

/-- The order of label values, by the first label and then by the second. -/
def labelOrder (a b : String × String) : Bool := a.1 < b.1 || (a.1 == b.1 && a.2 ≤ b.2)

def fileSamples (metrics : Metrics) (name : String) : List String :=
  (metrics.files.eraseDups.mergeSort fun a b => a ≤ b).map fun language =>
    sample name [label "language" language] (metrics.files.count language)

def directiveSamples (metrics : Metrics) (name : String) : List String :=
  (metrics.directives.eraseDups.mergeSort labelOrder).map fun (category, language) =>
    sample name [label "category" category, label "language" language]
      (metrics.directives.count (category, language))

/-- All counters as text, sorted by their names. -/
def text (metrics : Metrics) : String :=
  let files := "suppressaudit_files_scanned_total"
  let directives := "suppressaudit_findings_total"
  let errors := "suppressaudit_read_errors_total"
  family files "Source files audited, by language." (metrics.fileSamples files)
    ++ family directives "Suppression directives found, by language and directive family."
      (metrics.directiveSamples directives)
    ++ family errors "Files skipped because they could not be read."
      [sample errors [] metrics.readErrors]

end Metrics

end InlineAudit
