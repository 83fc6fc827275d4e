import InlineAudit.Command.Scan
import InlineAudit.Listing

/-!
The program: a scan, unless the first argument names one of the other commands. Some of these are
about the command line itself, as every program of this kind has them: they print help, and the
scripts and the answers by which shells complete command lines.
-/

namespace InlineAudit.Command

open Text

def programName : String := "suppressaudit"

/-- The options of the commands other than a scan. -/
structure SmallOptions where
  json : Bool := false
  help : Bool := false
  noDescriptions : Bool := false
  deriving DecidableEq, Repr

def helpFlag : Flag SmallOptions := .bool "help" (some 'h') fun o b => { o with help := b }

inductive Subcommand where
  | languages
  | extract
  | rule
  deriving DecidableEq, Repr

namespace Subcommand

def all : List Subcommand := [languages, extract, rule]

def name : Subcommand → String
  | languages => "languages"
  | extract => "extract"
  | rule => "rule"

def ofName? (name : String) : Option Subcommand := all.find? (·.name = name)

/-- How messages name a command. -/
def path (command : Subcommand) : String := programName ++ " " ++ command.name

/-- The flags of a command of its own. -/
def flags : Subcommand → List (Flag SmallOptions)
  | languages => [.bool "json" none fun o b => { o with json := b }]
  | _ => []

end Subcommand

def languagesJson : String :=
  Json.document (.arr (Repository.all.map Repository.toJson)) ++ "\n"

def ruleText : String :=
  "Key:         " ++ Rule.key ++ "\n"
    ++ "Name:        " ++ Rule.name ++ "\n"
    ++ "Severity:    " ++ Rule.severity ++ "\n"
    ++ "Type:        " ++ Rule.kind ++ "\n"
    ++ "Tags:        " ++ join ", " Rule.tags ++ "\n"
    ++ "Remediation: " ++ Rule.effort ++ "\n\n"
    ++ Rule.description ++ "\n"

/-- What a command does with its arguments, as far as the output takes everything. -/
def Subcommand.execute (command : Subcommand) (options : SmallOptions) (arguments : List String) :
    Run :=
  match command, arguments with
  | .languages, [] => .printed (if options.json then languagesJson else languageTable)
  | .rule, [] => .printed ruleText
  | .extract, [] => .failed (.tooFew 1 0)
  | .extract, arguments =>
    .printed (String.join ((referenceLines (join " " arguments)).map (· ++ "\n")))
  | command, word :: _ => .failed (.unknownCommand word command.path)

/-- Whether a command fails when the output does. -/
def Subcommand.asksOutput (command : Subcommand) (options : SmallOptions) : Bool :=
  command = .languages && options.json

/-- What a run would leave behind, put on the output of an environment. -/
def Run.deliver (run : Run) (environment : Environment) (asksOutput : Bool) : Run :=
  let written := environment.write run.output
  { run with
    output := written.output
    failure := run.failure.or (if asksOutput then written.failure else none) }

/-- Runs a command with the words of its command line. -/
def Subcommand.run (environment : Environment) (command : Subcommand) (words : List String) : Run :=
  match parse (command.flags ++ [helpFlag]) {} words with
  | .error cause => .failed (.flags cause)
  | .ok (options, arguments) =>
    if options.help then (environment.print (environment.manual.help [command.name])).run
    else (command.execute options arguments).deliver environment (command.asksOutput options)

/-! ### Commands about the command line -/

inductive Shell where
  | bash
  | fish
  | powershell
  | zsh
  deriving DecidableEq, Repr

def Shell.all : List Shell := [bash, fish, powershell, zsh]

def Shell.name : Shell → String
  | bash => "bash"
  | fish => "fish"
  | powershell => "powershell"
  | zsh => "zsh"

def Shell.ofName? (name : String) : Option Shell := all.find? (·.name = name)

inductive Standard where
  | help
  | completion
  /-- What shells ask for completions, with descriptions or without. -/
  | complete (described : Bool)
  deriving DecidableEq, Repr

namespace Standard

def all : List Standard := [help, completion, complete true, complete false]

def name : Standard → String
  | help => "help"
  | completion => "completion"
  | complete true => "__complete"
  | complete false => "__completeNoDesc"

def ofName? (name : String) : Option Standard := all.find? (·.name = name)

end Standard

/-- The shell that the arguments of the completion command name, if they name one. -/
def shell? (words : List String) : Option Shell :=
  (firstArgument? ([] : List (Flag SmallOptions)) words).bind Shell.ofName?

/-- The path of commands that words name, as far as they name any. -/
def commandPath (words : List String) : List String :=
  match firstArgument? Options.flags words with
  | none => []
  | some word =>
    match Subcommand.ofName? word, Standard.ofName? word with
    | some command, _ => [command.name]
    | none, some .help => [Standard.help.name]
    | none, some .completion =>
      let rest := withoutArgument Options.flags Standard.completion.name words
      Standard.completion.name :: ((shell? rest).map Shell.name).toList
    | none, _ => []

/-- Prints the help of the command that the arguments name. -/
def runHelp (environment : Environment) (words : List String) : Run :=
  match parse [helpFlag] {} words with
  | .error cause => .failed (.flags cause)
  | .ok (options, arguments) =>
    let path := if options.help then [Standard.help.name] else commandPath arguments
    (environment.print (environment.manual.help path)).run

def noDescriptionsFlag : Flag SmallOptions :=
  .bool "no-descriptions" none fun o b => { o with noDescriptions := b }

/-- Prints the script for a shell. -/
def Shell.run (environment : Environment) (shell : Shell) (words : List String) : Run :=
  let path := [Standard.completion.name, shell.name]
  match parse [noDescriptionsFlag, helpFlag] {} words with
  | .error cause => .failed (.flags cause)
  | .ok (options, arguments) =>
    if options.help then (environment.print (environment.manual.help path)).run
    else match arguments with
      | [] => (environment.write (environment.manual.script shell.name !options.noDescriptions)).run
      | word :: _ => .failed (.unknownCommand word (join " " (programName :: path)))

/-- Prints the script for the shell that is named, or help if none is. -/
def runCompletion (environment : Environment) (words : List String) : Run :=
  match shell? words with
  | some shell =>
    shell.run environment (withoutArgument ([] : List (Flag SmallOptions)) shell.name words)
  | none =>
    match parse [helpFlag] {} words with
    | .error cause => .failed (.flags cause)
    | .ok _ => (environment.print (environment.manual.help [Standard.completion.name])).run

/-- Answers a shell. Here no word is a flag. -/
def runComplete (environment : Environment) (described : Bool) (words : List String) : Run :=
  if words.isEmpty then .failed (.tooFew 1 0)
  else
    let (candidates, log) := environment.manual.candidates words described
    { output := (environment.print candidates).output, log := log }

def Standard.run (environment : Environment) (command : Standard) (words : List String) : Run :=
  match command with
  | help => runHelp environment words
  | completion => runCompletion environment words
  | complete described => runComplete environment described words

/-! ### The program -/

/-- Runs a scan with the words of its command line. -/
def runScan (environment : Environment) (words : List String) : Run :=
  match parse (Options.flags ++ Options.commonFlags) {} words with
  | .error cause => .failed (.flags cause)
  | .ok (options, arguments) =>
    if options.help then (environment.print (environment.manual.help [])).run
    else if options.version then
      (environment.write (programName ++ " version " ++ version ++ "\n")).run
    else match arguments with
      | [] => scan environment "." options
      | [root] => scan environment root options
      | arguments => .failed (.tooMany 1 arguments.length)

/-- A command that is no scan. -/
inductive Called where
  | subcommand (command : Subcommand)
  | standard (command : Standard)
  deriving DecidableEq, Repr

namespace Called

def all : List Called := Subcommand.all.map subcommand ++ Standard.all.map standard

def name : Called → String
  | subcommand command => command.name
  | standard command => command.name

def ofName? (name : String) : Option Called := all.find? (·.name = name)

def run (environment : Environment) (words : List String) : Called → Run
  | subcommand command => command.run environment words
  | standard command => command.run environment words

end Called

/-- Runs the program with the words behind its name. -/
def run (environment : Environment) (words : List String) : Run :=
  match (firstArgument? Options.flags words).bind Called.ofName? with
  | some command => command.run environment (withoutArgument Options.flags command.name words)
  | none => runScan environment words

end InlineAudit.Command
