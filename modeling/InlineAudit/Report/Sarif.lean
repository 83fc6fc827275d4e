import InlineAudit.Report.Document

/-!
Reports in the static analysis interchange format, version 2.1.0. A log has one run. Its results
are the issues in order, and its rules are the repositories that the results refer to, each once,
in the order of first use.
-/

namespace InlineAudit.Sarif

open Json Text

/-- An identifier made of 31 hexadecimal digits; where fixed bits tell that the others are random,
half of a digit is left out. -/
def guidOf (bits : Nat) : String :=
  let digits := fun count drop => String.ofList (hexDigits count (bits >>> (4 * drop)))
  let variant := String.ofList (hexDigits 1 (8 + bits >>> 60 % 4))
  digits 8 23 ++ "-" ++ digits 4 19 ++ "-4" ++ digits 3 16 ++ "-" ++ variant ++ digits 3 12
    ++ "-" ++ digits 12 0

/-- The identifier of the rule in a repository. -/
def ruleId (repository : String) : String := repository ++ ":" ++ Rule.key

structure RuleEntry where
  id : String
  /-- The name of the repository. -/
  fullDescription : String
  deriving DecidableEq, Repr

structure Result where
  ruleId : String
  message : String
  uri : String
  startLine : Int
  evidenceLine : Int
  category : String
  rules : List String
  blanket : Bool
  deriving DecidableEq, Repr

structure Run where
  /-- The version of this program. -/
  version : String
  guid : String
  rules : List RuleEntry
  results : List Result
  deriving DecidableEq, Repr

def RuleEntry.ofIssue (issue : Issue) : RuleEntry :=
  { id := Sarif.ruleId issue.repository, fullDescription := Repository.nameOf issue.language }

def Result.ofIssue (issue : Issue) : Result :=
  { ruleId := Sarif.ruleId issue.repository
    message := issue.message
    uri := issue.path
    startLine := issue.line
    evidenceLine := issue.evidenceLine
    category := issue.category.name
    rules := issue.rules
    blanket := issue.blanket }

/-- The first issue of each repository that is not in `seen`. -/
def firstOfEach : (seen : List String) → List Issue → List Issue
  | _, [] => []
  | seen, issue :: rest =>
    if seen.contains issue.repository then firstOfEach seen rest
    else issue :: firstOfEach (issue.repository :: seen) rest

def Run.ofReport (version guid : String) (report : Report) : Run :=
  { version := version
    guid := guid
    rules := (firstOfEach [] report.issues).map RuleEntry.ofIssue
    results := report.issues.map Result.ofIssue }

def textObject (text : String) : Value := .obj [("text", .str text)]

def RuleEntry.toJson (entry : RuleEntry) : Value :=
  .obj [("id", .str entry.id), ("name", .str Rule.name), ("shortDescription", textObject Rule.name),
    ("fullDescription", textObject entry.fullDescription),
    ("properties", .obj [("tags", .strings Rule.tags), ("severity", .str Rule.severity),
      ("type", .str Rule.kind)])]

def Result.location (result : Result) : Value :=
  .obj [("physicalLocation", .obj [
    ("artifactLocation", .obj [("uri", .str result.uri), ("uriBaseId", .str "%SRCROOT%")]),
    ("region", .obj [("startLine", .int result.startLine)])])]

def Result.toJson (result : Result) : Value :=
  .obj [("ruleId", .str result.ruleId), ("level", .str "error"),
    ("message", textObject result.message), ("locations", .arr [result.location]),
    ("properties", .obj ([("evidenceLine", .int result.evidenceLine),
      ("category", .str result.category)]
      ++ listField "suppressedRules" result.rules ++ flagField "blanket" result.blanket))]

def Run.toJson (run : Run) : Value :=
  .obj [
    ("tool", .obj [("driver", .obj [("name", .str "suppressaudit"), ("version", .str run.version),
      ("rules", .arr (run.rules.map RuleEntry.toJson))])]),
    ("automationDetails", .obj [("guid", .str run.guid)]),
    ("results", .arr (run.results.map Result.toJson))]

/-- A whole log. -/
def log (run : Run) : Value :=
  .obj [("$schema", .str "https://json.schemastore.org/sarif-2.1.0.json"),
    ("version", .str "2.1.0"), ("runs", .arr [run.toJson])]

end InlineAudit.Sarif

namespace InlineAudit

/-- A report as a log document with a line break at its end. -/
def Report.sarif (version guid : String) (report : Report) : String :=
  Json.document (Sarif.log (Sarif.Run.ofReport version guid report)) ++ "\n"

end InlineAudit
