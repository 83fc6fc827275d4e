import InlineAudit.Proofs.Audit.Conservation
import InlineAudit.Proofs.Report.Document
import InlineAudit.Report.Sarif

/-!
Reports as logs. Read by the names of its fields, a log has one run. Its results are the issues, and
its rules are the repositories they refer to: none is missing, none is idle and none stands twice.
The words of a rule come from the first issue of its repository; in the log of an audit they suit
all the others too, since there a repository is bound to one language.
-/

namespace InlineAudit

open Json Text

namespace Sarif

/-! ### Reading by names -/

def text? (value : Value) : Option String := value.field? "text" "" Value.text?

def RuleEntry.ofJson? (value : Value) : Option RuleEntry := do
  let id ← value.field? "id" "" Value.text?
  let fullDescription ← value.field? "fullDescription" "" text?
  return { id := id, fullDescription := fullDescription }

/-- A path and a line in it. -/
def location? (value : Value) : Option (String × Int) := do
  let place ← value.field? "physicalLocation" (.obj []) some
  let uri ← place.field? "artifactLocation" "" (Value.field? "uri" "" Value.text?)
  let startLine ← place.field? "region" 0 (Value.field? "startLine" 0 Value.int?)
  return (uri, startLine)

/-- What a result says beyond its message, as values of its own. -/
def properties? (value : Value) : Option (Int × String × List String × Bool) := do
  let evidenceLine ← value.field? "evidenceLine" 0 Value.int?
  let category ← value.field? "category" "" Value.text?
  let rules ← value.field? "suppressedRules" [] (Value.items? Value.text?)
  let blanket ← value.field? "blanket" false Value.bool?
  return (evidenceLine, category, rules, blanket)

/-- A result at a single location. -/
def Result.ofJson? (value : Value) : Option Result := do
  let ruleId ← value.field? "ruleId" "" Value.text?
  let message ← value.field? "message" "" text?
  let locations ← value.field? "locations" [] (Value.items? location?)
  let (evidenceLine, category, rules, blanket) ←
    value.field? "properties" (0, "", [], false) properties?
  match locations with
  | [(uri, startLine)] =>
    return { ruleId := ruleId, message := message, uri := uri, startLine := startLine,
             evidenceLine := evidenceLine, category := category, rules := rules,
             blanket := blanket }
  | _ => none

def Run.ofJson? (value : Value) : Option Run := do
  let tool ← value.field? "tool" (.obj []) some
  let driver ← tool.field? "driver" (.obj []) some
  let version ← driver.field? "version" "" Value.text?
  let rules ← driver.field? "rules" [] (Value.items? RuleEntry.ofJson?)
  let guid ← value.field? "automationDetails" "" (Value.field? "guid" "" Value.text?)
  let results ← value.field? "results" [] (Value.items? Result.ofJson?)
  return { version := version, guid := guid, rules := rules, results := results }

/-- A text is one JSON value, perhaps among white space, that reads as a log with these runs. -/
def Decodes (text : String) (runs : List Run) : Prop :=
  ∃ value rest, Reads text.toList value rest ∧ skipSpace rest = [] ∧
    value.field? "runs" [] (Value.items? Run.ofJson?) = some runs

theorem text?_textObject (text : String) : text? (textObject text) = some text := by
  simp [text?, textObject, Value.field?, text?_str]

theorem RuleEntry.ofJson?_toJson (entry : RuleEntry) : ofJson? entry.toJson = some entry := by
  simp [ofJson?, toJson, Value.field?, List.lookup_cons, text?_str, text?_textObject]

theorem location?_location (result : Result) :
    location? result.location = some (result.uri, result.startLine) := by
  simp [location?, Result.location, Value.field?, List.lookup_cons, text?_str, Value.int?]

theorem properties?_obj (evidenceLine : Int) (category : String) (rules : List String)
    (blanket : Bool) :
    properties? (.obj (("evidenceLine", .int evidenceLine) :: ("category", .str category)
      :: (listField "suppressedRules" rules ++ flagField "blanket" blanket))) =
      some (evidenceLine, category, rules, blanket) := by
  cases rules <;> cases blanket <;>
    simp [properties?, Value.field?, listField, flagField, List.lookup_cons, text?_str,
      items?_strings, Value.int?, Value.bool?]

theorem Result.ofJson?_toJson (result : Result) : ofJson? result.toJson = some result := by
  have hlocations : (Value.arr [result.location]).items? location? =
      some [(result.uri, result.startLine)] := by
    simp [Value.items?, location?_location]
  have hproperties :=
    properties?_obj result.evidenceLine result.category result.rules result.blanket
  simp [ofJson?, toJson, Value.field?, List.lookup_cons, text?_str, text?_textObject, hlocations,
    hproperties]

theorem Run.ofJson?_toJson (run : Run) : ofJson? run.toJson = some run := by
  have hrules : (Value.arr (run.rules.map RuleEntry.toJson)).items? RuleEntry.ofJson? =
      some run.rules := mapM_map_of_forall RuleEntry.ofJson?_toJson run.rules
  have hresults : (Value.arr (run.results.map Result.toJson)).items? Result.ofJson? =
      some run.results := mapM_map_of_forall Result.ofJson?_toJson run.results
  simp [ofJson?, toJson, Value.field?, List.lookup_cons, text?_str, hrules, hresults]

theorem runs_log (run : Run) :
    (log run).field? "runs" [] (Value.items? Run.ofJson?) = some [run] := by
  simp [log, Value.field?, List.lookup_cons, Value.items?, Run.ofJson?_toJson]

/-! ### Writing -/

section Clean

open Value.Clean

theorem textObject_clean (text : String) : (textObject text).Clean :=
  .obj (by simp [str])

theorem RuleEntry.toJson_clean (entry : RuleEntry) : entry.toJson.Clean := by
  have hproperties : (Value.obj [("tags", .strings Rule.tags), ("severity", .str Rule.severity),
      ("type", .str Rule.kind)]).Clean := .obj (by simp [str, strings_clean])
  exact .obj (by simp [str, textObject_clean, hproperties])

theorem Result.location_clean (result : Result) : result.location.Clean := by
  have hartifact : (Value.obj [("uri", .str result.uri), ("uriBaseId", .str "%SRCROOT%")]).Clean :=
    .obj (by simp [str])
  have hregion : (Value.obj [("startLine", .int result.startLine)]).Clean := .obj (by simp [int])
  exact .obj (by simpa using .obj (by simp [hartifact, hregion]))

theorem Result.toJson_clean (result : Result) : result.toJson.Clean := by
  have hlocations : (Value.arr [result.location]).Clean := .arr (by simp [result.location_clean])
  have hproperties : (Value.obj ([("evidenceLine", .int result.evidenceLine),
      ("category", .str result.category)]
      ++ listField "suppressedRules" result.rules
      ++ flagField "blanket" result.blanket)).Clean := by
    refine .obj ?_
    simp only [List.forall_mem_append]
    exact ⟨⟨by simp [int, str], listField_clean result.rules⟩, flagField_clean result.blanket⟩
  refine .obj ?_
  simp only [List.forall_mem_cons]
  exact ⟨.str _, .str _, textObject_clean _, hlocations, hproperties, by simp⟩

theorem Run.toJson_clean (run : Run) : run.toJson.Clean := by
  have hrules := arr_map_clean RuleEntry.toJson_clean run.rules
  have hresults := arr_map_clean Result.toJson_clean run.results
  have hguid : (Value.obj [("guid", .str run.guid)]).Clean := .obj (by simp [str])
  have hdriver : (Value.obj [("name", .str "suppressaudit"), ("version", .str run.version),
      ("rules", .arr (run.rules.map RuleEntry.toJson))]).Clean := .obj (by simp [str, hrules])
  have htool : (Value.obj [("driver", _)]).Clean := .obj (by simpa using hdriver)
  exact .obj (by simp [hguid, hresults, htool])

theorem log_clean (run : Run) : (log run).Clean := by
  have hruns : (Value.arr [run.toJson]).Clean := .arr (by simp [run.toJson_clean])
  exact .obj (by simp [str, hruns])

end Clean

theorem decodes_document_iff (run : Run) {runs : List Run} :
    Decodes (document (log run) ++ "\n") runs ↔ runs = [run] := by
  have hreads {value : Value} {rest : List Char} :
      Reads (document (log run) ++ "\n").toList value rest ↔ value = log run ∧ rest = ['\n'] :=
    document_reads_iff (log_clean run)
  constructor
  · rintro ⟨value, rest, hvalue, -, hruns⟩
    obtain ⟨rfl, rfl⟩ := hreads.mp hvalue
    exact Option.some.inj (hruns.symm.trans (runs_log run))
  · rintro rfl
    exact ⟨log run, ['\n'], hreads.mpr ⟨rfl, rfl⟩, rfl, runs_log run⟩

/-! ### Results and rules -/

theorem ruleId_inj {repository repository' : String} :
    ruleId repository = ruleId repository' ↔ repository = repository' := by
  rw [ruleId, ruleId, String.append_left_inj, String.append_left_inj]

/-- The repositories of issues, as often as they come. -/
def repositories (issues : List Issue) : List String := issues.map (·.repository)

theorem mem_firstOfEach {seen : List String} {issues : List Issue} {repository : String} :
    repository ∈ repositories (firstOfEach seen issues)
      ↔ repository ∈ repositories issues ∧ repository ∉ seen := by
  induction issues generalizing seen with
  | nil => simp [firstOfEach, repositories]
  | cons issue issues ih =>
    simp only [repositories] at ih ⊢
    rw [firstOfEach]
    split
    · next hseen =>
      rw [ih]
      simp only [List.contains_iff_mem] at hseen
      grind
    · next hseen =>
      rw [List.map_cons, List.mem_cons, ih]
      simp only [List.contains_iff_mem] at hseen
      grind

theorem firstOfEach_sublist (seen : List String) (issues : List Issue) :
    (firstOfEach seen issues).Sublist issues := by
  induction issues generalizing seen with
  | nil => exact List.Sublist.slnil
  | cons issue issues ih =>
    rw [firstOfEach]
    split
    · exact (ih seen).cons issue
    · exact (ih _).cons_cons issue

theorem firstOfEach_nodup (seen : List String) (issues : List Issue) :
    (repositories (firstOfEach seen issues)).Nodup := by
  induction issues generalizing seen with
  | nil => exact List.nodup_nil
  | cons issue issues ih =>
    rw [firstOfEach]
    split
    · exact ih seen
    · refine List.nodup_cons.mpr ⟨?_, ih _⟩
      intro hmem
      exact (mem_firstOfEach.mp hmem).2 List.mem_cons_self

theorem firstOfEach_order (seen : List String) (issues : List Issue) :
    (repositories (firstOfEach seen issues)).Pairwise fun a b =>
      (repositories issues).idxOf a < (repositories issues).idxOf b := by
  induction issues generalizing seen with
  | nil => exact List.Pairwise.nil
  | cons issue issues ih =>
    have hne {seen : List String} (hseen : issue.repository ∈ seen) {a : String}
        (ha : a ∈ repositories (firstOfEach seen issues)) : issue.repository ≠ a :=
      fun heq => (mem_firstOfEach.mp ha).2 (heq ▸ hseen)
    -- A repository that was seen is behind the first place, and stays in order there.
    have hbehind {seen : List String} (hseen : issue.repository ∈ seen) :
        (repositories (firstOfEach seen issues)).Pairwise fun a b =>
          (issue.repository :: repositories issues).idxOf a
            < (issue.repository :: repositories issues).idxOf b := by
      refine (ih seen).imp_of_mem fun ha hb hlt => ?_
      rw [List.idxOf_cons_ne _ (hne hseen ha), List.idxOf_cons_ne _ (hne hseen hb)]
      exact Nat.succ_lt_succ hlt
    rw [firstOfEach]
    split
    · next hseen => exact hbehind (by simpa using hseen)
    · refine List.pairwise_cons.mpr ⟨fun b hb => ?_, hbehind List.mem_cons_self⟩
      rw [repositories, List.map_cons, List.idxOf_cons_self,
        List.idxOf_cons_ne _ (hne List.mem_cons_self hb)]
      exact Nat.succ_pos _

/-- A result says what its issue says. -/
structure Result.Shows (result : Result) (issue : Issue) : Prop where
  message_eq : result.message = issue.message
  uri_eq : result.uri = issue.path
  startLine_eq : result.startLine = issue.line
  evidenceLine_eq : result.evidenceLine = issue.evidenceLine
  category_eq : result.category = issue.category.name
  rules_eq : result.rules = issue.rules
  blanket_eq : result.blanket = issue.blanket

namespace Run

variable (run : Run)

def ruleIds : List String := run.rules.map (·.id)

/-- The identifiers that results refer to, as often as they do. -/
def usedIds : List String := run.results.map (·.ruleId)

/-- Each result with the issue in its place. -/
def pairs (report : Report) : List (Result × Issue) := run.results.zip report.issues

end Run

/-- A run and the report it is made of. -/
structure Complete (report : Report) (run : Run) : Prop where
  /-- Results and issues correspond, one to one and in order. -/
  shows : List.Forall₂ Result.Shows run.results report.issues
  ruleIds_nodup : run.ruleIds.Nodup
  /-- Rules stand in the order of their first use. -/
  ruleIds_order : run.ruleIds.Pairwise fun a b => run.usedIds.idxOf a < run.usedIds.idxOf b
  mem_ruleIds_iff : ∀ id, id ∈ run.ruleIds ↔ id ∈ run.usedIds
  /-- A rule is a repository. -/
  ruleId_eq_iff : ∀ p ∈ run.pairs report, ∀ q ∈ run.pairs report,
    p.1.ruleId = q.1.ruleId ↔ p.2.repository = q.2.repository

/-- What a run has beyond that if its report comes from an audit. -/
structure Settled (report : Report) (run : Run) : Prop where
  one_le_startLine : ∀ result ∈ run.results, 1 ≤ result.startLine
  /-- The words of a rule suit all issues that refer to it. -/
  fullDescription_eq : ∀ rule ∈ run.rules, ∀ p ∈ run.pairs report, p.1.ruleId = rule.id →
    rule.fullDescription = Repository.nameOf p.2.language

section OfReport

variable (version guid : String) (report : Report)

theorem ofReport_ruleIds : (Run.ofReport version guid report).ruleIds =
    (repositories (firstOfEach [] report.issues)).map ruleId := by
  simp only [Run.ruleIds, Run.ofReport, repositories, List.map_map]
  rfl

theorem ofReport_usedIds : (Run.ofReport version guid report).usedIds =
    (repositories report.issues).map ruleId := by
  simp only [Run.usedIds, Run.ofReport, repositories, List.map_map]
  rfl

theorem ofReport_pairs : (Run.ofReport version guid report).pairs report =
    report.issues.map fun issue => (Result.ofIssue issue, issue) :=
  List.map_prod_right_eq_zip.symm

theorem ofReport_complete : Complete report (Run.ofReport version guid report) where
  shows := by
    rw [Run.ofReport, List.forall₂_map_left_iff]
    exact List.forall₂_same.mpr fun issue _ => ⟨rfl, rfl, rfl, rfl, rfl, rfl, rfl⟩
  ruleIds_nodup := by
    rw [ofReport_ruleIds]
    exact (firstOfEach_nodup [] report.issues).map fun _ _ => ruleId_inj.mp
  ruleIds_order := by
    rw [ofReport_ruleIds, ofReport_usedIds, List.pairwise_map]
    refine (firstOfEach_order [] report.issues).imp fun hlt => ?_
    rw [idxOf_map fun _ _ => ruleId_inj.mp, idxOf_map fun _ _ => ruleId_inj.mp]
    exact hlt
  mem_ruleIds_iff id := by
    rw [ofReport_ruleIds, ofReport_usedIds]
    simp [mem_firstOfEach]
  ruleId_eq_iff := by
    rw [ofReport_pairs]
    intro p hp q hq
    obtain ⟨issue, -, rfl⟩ := List.mem_map.mp hp
    obtain ⟨issue', -, rfl⟩ := List.mem_map.mp hq
    exact ruleId_inj

end OfReport

end Sarif

/-! ### Audits -/

/-- The report of an audit, whichever way its tasks went, or of one file after the other; with or
without a reference that the files were compared with. -/
inductive Audited : Report → Prop
  | pool {audit : FinishedAudit} {report : Report} (h : audit.result = .ok report) : Audited report
  | sequence {read : FileReader} {cancelled : Bool} {metrics : Metrics} {root : String}
      {files : List SourceFile} {done : Audit}
      (h : auditBy read cancelled metrics root files = .ok done) : Audited done.report
  | compared {report : Report} (h : Audited report) (ref : String) :
      Audited { report with diffRef := ref }

theorem Audited.exists_plan {report : Report} (h : Audited report) :
    ∃ plan : Plan, report.issues = plan.report.issues := by
  induction h with
  | @pool audit report h => exact ⟨audit.plan, by rw [audit.report_eq h]⟩
  | @sequence read cancelled metrics root files done h =>
    -- How many tasks may run at a time does not show in a report.
    refine ⟨⟨read, root, files, 1⟩, ?_⟩
    rw [auditBy] at h
    split at h
    · cases h
    · cases h
      rfl
  | compared h ref ih => exact ih

theorem Audited.issue {report : Report} (h : Audited report) {issue : Issue}
    (hissue : issue ∈ report.issues) :
    1 ≤ issue.line ∧ issue.repository = Repository.keyOf issue.language := by
  obtain ⟨plan, hplan⟩ := h.exists_plan
  rw [hplan, plan.issues_eq] at hissue
  obtain ⟨file, -, hfound⟩ := List.mem_flatMap.mp hissue
  obtain ⟨total, finding, hplaced, rfl⟩ := Plan.exists_finding hfound
  exact ⟨hplaced.report.1, rfl⟩

theorem keyOf_inj {language language' : String} :
    Repository.keyOf language = Repository.keyOf language' ↔ language = language' :=
  String.append_right_inj "suppression-audit-"

theorem Audited.settled {report : Report} (h : Audited report) (version guid : String) :
    Sarif.Settled report (Sarif.Run.ofReport version guid report) where
  one_le_startLine := by
    intro result hresult
    obtain ⟨issue, hissue, rfl⟩ := List.mem_map.mp hresult
    exact (h.issue hissue).1
  fullDescription_eq := by
    intro rule hrule p hp hid
    rw [Sarif.ofReport_pairs] at hp
    obtain ⟨first, hfirst, rfl⟩ := List.mem_map.mp hrule
    obtain ⟨issue, hissue, rfl⟩ := List.mem_map.mp hp
    have hfirst := (h.issue ((Sarif.firstOfEach_sublist _ _).mem hfirst)).2
    have hrepository : issue.repository = first.repository := Sarif.ruleId_inj.mp hid
    rw [hfirst, (h.issue hissue).2, keyOf_inj] at hrepository
    rw [hrepository]
    rfl

/-- The log of a report has one run, whichever way it is read. Its results and its rules are those
of the issues, and if the report comes from an audit, lines count from one and no rule has words
that do not suit one of its issues. -/
theorem sarif_log_complete (version guid : String) (report : Report) :
    (∀ runs, Sarif.Decodes (report.sarif version guid) runs
      ↔ runs = [Sarif.Run.ofReport version guid report]) ∧
    Sarif.Complete report (Sarif.Run.ofReport version guid report) ∧
    (Audited report → Sarif.Settled report (Sarif.Run.ofReport version guid report)) :=
  ⟨fun _ => Sarif.decodes_document_iff _, Sarif.ofReport_complete version guid report,
    fun h => h.settled version guid⟩

/-- Two languages in turns. -/
def mixedFiles : Plan where
  read path :=
    .ok (Text.encode (if path = "/project/b.java" then "int x; // NOSONAR" else "# NOSONAR").toList)
  root := "/project"
  files :=
    [{ path := "a.py", size := 9, ext := ".py", language := "py" },
     { path := "b.java", size := 17, ext := ".java", language := "java" },
     { path := "c.py", size := 9, ext := ".py", language := "py" }]
  limit := 1

/-- The third result refers to the rule of the first. -/
theorem mixedFiles_logged :
    Audited mixedFiles.report ∧
      Sarif.Settled mixedFiles.report (.ofReport "1.0.0" "" mixedFiles.report) ∧
      (Sarif.Run.ofReport "1.0.0" "" mixedFiles.report).usedIds =
        ["suppression-audit-py:InlineSuppression", "suppression-audit-java:InlineSuppression",
          "suppression-audit-py:InlineSuppression"] := by
  obtain ⟨audit, hplan, -, hresult⟩ := mixedFiles.exists_finished (by decide) {}
  have hreport : audit.result = .ok mixedFiles.report := by
    rw [FinishedAudit.result, hplan, hresult]
  have haudited : Audited mixedFiles.report := .pool hreport
  exact ⟨haudited, (sarif_log_complete "1.0.0" "" mixedFiles.report).2.2 haudited,
    by decide +kernel⟩

end InlineAudit
