import InlineAudit.Audit
import InlineAudit.Git.Diff
import InlineAudit.Listing
import InlineAudit.Report.Document
import InlineAudit.Report.TreeText
import InlineAudit.Tools.Request
import InlineAudit.Walk

/-!
How the tools answer. An answer is a text, which may tell a failure; beside it stand the log
events and the git calls on the way to it.
-/

namespace InlineAudit.Tools

open Text

def serverVersion : String := "1.0.0"

/-- What the tools see of the world. -/
structure Environment where
  system : Files.System
  git : Git.Executable
  machine : Machine := .single
  /-- The home directory. -/
  home : String := ""

/-- Why a tool has no result. -/
inductive ToolError where
  | noPath
  | unsupported (language : String)
  | walk (cause : Files.PathError)
  | diff (ref : String) (cause : Git.DiffError)
  | audit (cause : AuditError)
  | unknownFormat (format : String)
  /-- The path of an issue runs through a file. -/
  | noTree
  deriving DecidableEq, Repr

def ToolError.message : ToolError → String
  | .noPath => "path is required"
  | .unsupported language => "Unsupported language " ++ quote language
  | .walk cause => "Scan error: " ++ cause.message
  | .diff ref cause =>
    "Git diff error: " ++ cause.message ++ "\nMake sure '" ++ ref ++ "' is a valid branch/ref"
  | .audit cause => "Audit error: " ++ cause.message
  | .unknownFormat format => "Unknown format " ++ quote format ++ " (want text or json)"
  | .noTree => "a path leads through a file"

structure Reply where
  result : Except ToolError String
  events : List Log.Event := []
  gitCalls : List (List String) := []

/-- The text of a reply, of either kind. -/
def Reply.text (reply : Reply) : String :=
  match reply.result with
  | .ok text => text
  | .error cause => cause.message

def Reply.isError (reply : Reply) : Bool := !reply.result.toBool

/-- A report in a format, the tree if none is given. -/
def render (format : String) (report : Report) : Except ToolError String :=
  if format = "json" then .ok (Json.document report.toJson)
  else if format = "" || format = "text" then
    match report.text? .bare with
    | some text => .ok text
    | none => .error .noTree
  else .error (.unknownFormat format)

/-- Audits the files of a scan and tells the report in a format. -/
def reportOn (environment : Environment) (root ref format : String) (files : List SourceFile) :
    Reply :=
  let done := environment.machine.audit environment.system 0 root files
  { result :=
      match done.result with
      | .error cause => .error (.audit cause)
      | .ok report => render format { report with diffRef := ref }
    events := done.events }

/-- Scans a directory. -/
def auditPath (environment : Environment) (path ref : String) (languages : List String)
    (format : String) : Reply :=
  if path = "" then { result := .error .noPath }
  else
    let root := Path.absolute environment.system.cwd path
    match languages.find? (!Language.isSupported ·) with
    | some language => { result := .error (.unsupported language) }
    | none =>
      match sourceFiles environment.system (ignorePatterns? environment.system root []) root with
      | .error cause => { result := .error (.walk cause) }
      | .ok found =>
        let files := keepLanguages languages found
        if ref = "" then reportOn environment root ref format files
        else
          match Git.diffAgainst environment.git ref with
          | (.error cause, calls) => { result := .error (.diff ref cause), gitCalls := calls }
          | (.ok diff, calls) =>
            { reportOn environment root ref format (diff.keepChanged files) with
              gitCalls := calls }

/-- The language of a text: the one that is named, else the one that its path tells. -/
def contentLanguage (path language : String) : String :=
  if language = "" then (Language.ofPath? path).getD "" else language

/-- Audits a text: its findings, or its issues once a language is known. -/
def auditContent (content path language : String) : Except ToolError String :=
  let found := findingsOfBytes (Text.encodeString content)
  match contentLanguage path language with
  | "" => .ok (Json.document (.arr (found.map Finding.toJson)))
  | language =>
    if Language.isSupported language then
      .ok (Json.document (.arr ((issuesOf path language found).map Issue.toJson)))
    else .error (.unsupported language)

def statusText (environment : Environment) : String :=
  "suppressaudit MCP server v" ++ serverVersion
    ++ "\nStatus: connected\nLocal filesystem access: enabled\nWorking directory: "
    ++ environment.system.cwd ++ "\nHome directory: " ++ environment.home
    ++ "\n\nAvailable tools:"
    ++ "\n  scan_path      - Audit a project directory"
    ++ "\n  scan_content   - Audit a source buffer"
    ++ "\n  extract_rules  - Rule references in a directive payload"
    ++ "\n  list_languages - Supported languages and repositories"

/-- Answers a request. -/
def Request.answer (environment : Environment) : Request → Reply
  | .extractRules payload => { result := .ok (join "\n" (referenceLines payload)) }
  | .listLanguages => { result := .ok languageTable }
  | .scanContent content path language => { result := auditContent content path language }
  | .scanPath path ref languages format => auditPath environment path ref languages format
  | .status => { result := .ok (statusText environment) }

end InlineAudit.Tools
