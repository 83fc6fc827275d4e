import InlineAudit.Tools.Argument

/-!
The tools that an agent can call, and what a call asks for once its arguments are accepted.
-/

namespace InlineAudit.Tools

open Text

inductive Tool where
  | extractRules
  | listLanguages
  | scanContent
  | scanPath
  | status
  deriving DecidableEq, Repr

namespace Tool

/-- The tools in the order of their names. -/
def all : List Tool := [extractRules, listLanguages, scanContent, scanPath, status]

def name : Tool → String
  | extractRules => "extract_rules"
  | listLanguages => "list_languages"
  | scanContent => "scan_content"
  | scanPath => "scan_path"
  | status => "status"

def ofName? (name : String) : Option Tool := all.find? (·.name = name)

def description : Tool → String
  | extractRules =>
    "Extract the SonarQube rule references (e.g. java:S1234, S106) named in the argument list of "
      ++ "a suppression annotation or attribute."
  | listLanguages =>
    "List the audited languages, their file extensions' language keys, and the rule repository "
      ++ "findings are reported under."
  | scanContent =>
    "Audit source text that is not on disk (e.g. a proposed edit) for inline suppressions. "
      ++ "Returns the findings as JSON with report and evidence lines."
  | scanPath =>
    "Audit a project directory for inline suppressions of SonarQube findings (NOSONAR comments, "
      ++ "@SuppressWarnings/@Suppress annotations, [SuppressMessage] attributes). Respects "
      ++ ".gitignore. Set ref to only audit files changed vs a git branch. Returns a findings "
      ++ "tree, or JSON with format=json."
  | status =>
    "Check suppressaudit MCP server status. Returns version and confirms local filesystem access "
      ++ "is available."

def parameters : Tool → List Parameter
  | extractRules => [⟨"payload", .text, true⟩]
  | listLanguages => []
  | scanContent => [⟨"content", .text, true⟩, ⟨"path", .text, false⟩, ⟨"language", .text, false⟩]
  | scanPath =>
    [⟨"path", .text, true⟩, ⟨"ref", .text, false⟩, ⟨"languages", .texts, false⟩,
      ⟨"format", .text, false⟩]
  | status => []

end Tool

/-- A call that asks for something. Empty texts stand for what was left out. -/
inductive Request where
  | extractRules (payload : String)
  | listLanguages
  | scanContent (content path language : String)
  | scanPath (path ref : String) (languages : List String) (format : String)
  | status
  deriving DecidableEq, Repr

/-- Why a call is turned away before any tool runs. -/
inductive Rejection where
  | unknownTool (name : String)
  | arguments (fault : ArgumentFault)

def Rejection.message : Rejection → String
  | .unknownTool name => "calling \"tools/call\": unknown tool " ++ quote name
  | .arguments fault =>
    "calling \"tools/call\": invalid params: validating \"arguments\": validating root: "
      ++ fault.message

/-- What a tool is asked for with accepted arguments. -/
def Request.of (tool : Tool) (arguments : Arguments) : Request :=
  match tool with
  | .extractRules => .extractRules (textOf arguments "payload")
  | .listLanguages => .listLanguages
  | .scanContent =>
    .scanContent (textOf arguments "content") (textOf arguments "path")
      (textOf arguments "language")
  | .scanPath =>
    .scanPath (textOf arguments "path") (textOf arguments "ref") (textsOf arguments "languages")
      (textOf arguments "format")
  | .status => .status

/-- Reads a call. -/
def Request.read (name : String) (arguments : Arguments) : Except Rejection Request :=
  match Tool.ofName? name with
  | none => .error (.unknownTool name)
  | some tool =>
    match check tool.parameters arguments with
    | .error fault => .error (.arguments fault)
    | .ok () => .ok (.of tool arguments)

end InlineAudit.Tools
