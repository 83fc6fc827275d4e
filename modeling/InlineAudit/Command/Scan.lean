import InlineAudit.Command.Run
import InlineAudit.Log.Logger
import InlineAudit.Report.Sarif
import InlineAudit.Report.TreeText
import InlineAudit.Walk

/-!
The scan command: settle the settings, choose the files, audit them, write the report and the
counters, and sum up.
-/

namespace InlineAudit.Command

open Log

/-- The version that reports and the program itself tell. -/
def version : String := "dev"

def startingEvent (root : String) (settings : Settings) : Event :=
  { level := .debug
    message := "Starting audit"
    fields := [("root", .text root), ("languages", .texts settings.languages),
      ("exclude", .texts settings.exclude)] }

/-- Tells how many files changed and how many of them are audited. -/
def changedEvent (diff : Git.Diff) (files : List SourceFile) : Event :=
  { level := .debug
    message := "Filtered to changed files"
    fields := [("changed", .number diff.changed.length), ("auditable", .number files.length)] }

def summaryEvent (report : Report) : Event :=
  { level := if report.issues.isEmpty then .info else .warn
    message := "Audit complete"
    fields := [("files", .number report.filesScanned), ("skipped", .number report.skipped.length),
      ("findings", .number report.issues.length)] }

/-- What the output shows of styles. -/
def finishOf (noColour colours : Bool) : Finish :=
  if noColour then .bare else if colours then .coloured else .shaped

/-- Writes a report in a format, or lets it be browsed. The output may fail at the text for people
unnoticed. -/
def render (environment : Environment) (options : Options) (format : String) (report : Report) :
    Written :=
  if options.interactive then
    if environment.terminal then environment.present report else { failure := some .noTerminal }
  else if format = "json" then environment.write report.json
  else if format = "sarif" then environment.write (report.sarif version environment.guid)
  else match report.text? (finishOf options.noColour environment.colours) with
    | some text => environment.print text
    | none => { failure := some .noTree }

/-- The directory to scan, as an absolute path. -/
def directory (system : Files.System) (root : String) : Except Failure String :=
  let path := Path.absolute system.cwd root
  match system.stat path with
  | .error cause => .error (.path cause)
  | .ok node => if node.isDir then .ok path else .error (.notDirectory root)

/-- What is settled before anything is scanned. -/
structure Plan where
  path : String
  settings : Settings
  logger : Logger

def plan (environment : Environment) (root : String) (options : Options) :
    Except Failure Plan := do
  let path ← directory environment.system root
  let settings ← (options.resolve environment.system path).mapError .settings
  let logger ← (Logger.ofSettings settings.logLevel settings.logFormat environment.logTerminal
    environment.time).mapError .logger
  return ⟨path, settings, logger⟩

/-- The files to audit. -/
structure Selection where
  files : List SourceFile
  /-- The reference that they were compared with, if they were. -/
  diffRef : String := ""
  events : List Event := []

/-- Chooses the files to audit, with the git calls that were made. -/
def select (environment : Environment) (root : String) (options : Options) (plan : Plan) :
    Except Failure Selection × List (List String) :=
  let patterns := ignorePatterns? environment.system plan.path plan.settings.exclude
  match sourceFiles environment.system patterns plan.path with
  | .error cause => (.error (.walk root cause), [])
  | .ok found =>
    let files := keepLanguages (plan.settings.languages.map (·.shown)) found
    if options.diff then
      match Git.diffAgainst environment.git options.ref with
      | (.error cause, calls) => (.error (.diff options.ref cause), calls)
      | (.ok diff, calls) =>
        let files := diff.keepChanged files
        (.ok { files := files, diffRef := options.ref, events := [changedEvent diff files] }, calls)
    else (.ok { files := files }, [])

/-- The file that the counters go to, if they go to any, and why they cannot. -/
def counters (environment : Environment) (options : Options) (metrics : Metrics) :
    Except String (Option (String × String)) :=
  if options.metricsOut = "" then .ok none
  else match environment.refused options.metricsOut with
    | some cause => .error cause
    | none => .ok (some (options.metricsOut, metrics.text))

/-- Writes a report and then the counters; the events are those logged before. -/
def report (environment : Environment) (options : Options) (plan : Plan) (events : List Event)
    (report : Report) (metrics : Metrics) : Run :=
  let written := render environment options plan.settings.format.shown report
  match written.failure with
  | some failure =>
    { output := written.output, log := plan.logger.write events, failure := some failure }
  | none =>
    match counters environment options metrics with
    | .error cause =>
      { output := written.output
        log := plan.logger.write events
        failure := some (.counters cause) }
    | .ok metrics =>
      { output := written.output
        log := plan.logger.write (events ++ [summaryEvent report])
        metrics := metrics
        failure :=
          if plan.settings.failOnFindings && !report.issues.isEmpty then some .findings else none }

/-- Audits the chosen files and reports on them; the events are those logged before. -/
def auditFiles (environment : Environment) (options : Options) (plan : Plan) (events : List Event)
    (selection : Selection) : Run :=
  let done := environment.machine.audit environment.system plan.settings.workers plan.path
    selection.files
  let events := events ++ selection.events ++ done.events
  match done.result with
  | .error cause => { log := plan.logger.write events, failure := some (.audit cause) }
  | .ok found =>
    report environment options plan events { found with diffRef := selection.diffRef } done.metrics

/-- Scans a directory when everything is settled. -/
def execute (environment : Environment) (root : String) (options : Options) (plan : Plan) : Run :=
  let events := [startingEvent plan.path plan.settings]
  match select environment root options plan with
  | (.error failure, calls) =>
    { log := plan.logger.write events, gitCalls := calls, failure := some failure }
  | (.ok selection, calls) =>
    { auditFiles environment options plan events selection with gitCalls := calls }

/-- Scans a directory. -/
def scan (environment : Environment) (root : String) (options : Options) : Run :=
  match plan environment root options with
  | .error failure => .failed failure
  | .ok plan => execute environment root options plan

end InlineAudit.Command
