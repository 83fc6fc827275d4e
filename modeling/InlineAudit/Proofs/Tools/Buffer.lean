import InlineAudit.Proofs.Audit.Schedule
import InlineAudit.Proofs.Detect.StrayBytes
import InlineAudit.Proofs.Walk
import InlineAudit.Tools.Reply

/-!
A buffer and a file. A tool is given a text, an audit reads bytes that may be none; whoever passes
the content of a file to the tool passes what the bytes read as. Findings do not tell the two
apart, and both bind them to issues in the same way, so the tool answers with the issues of the
report that an audit of the file gives.
-/

namespace InlineAudit

open Detect Text Tools

/-- A text whose path tells its language is audited in that language. -/
theorem auditContent_of_path {content path language : String}
    (h : Language.ofPath? path = some language) :
    auditContent content path "" = .ok (Json.document (.arr
      ((issuesOf path language (findingsOfBytes (encodeString content))).map Issue.toJson))) := by
  have hsupported : Language.isSupported language = true :=
    Language.isSupported_of_mem_extensions (Language.ofPath?_eq_some_iff.mp h)
  have hknown : contentLanguage path "" = language := by
    rw [contentLanguage, if_pos rfl, h, Option.getD_some]
  simp only [auditContent, hknown]
  split
  · exact absurd hsupported (by decide)
  · rw [if_pos hsupported]

/-- The plan is to audit one file, and its bytes are a content. -/
structure Plan.IsForFile (plan : Plan) (path language : String) (content : Bytes) : Prop where
  file : ∃ file, plan.files = [file] ∧ file.path = path ∧ file.language = language
  bytes : plan.read (Path.joinTo plan.root path) = .ok content

theorem Plan.IsForFile.issues_eq {plan : Plan} {path language : String} {content : Bytes}
    (h : plan.IsForFile path language content) :
    plan.report.issues = issuesOf path language (findingsOfBytes content) := by
  obtain ⟨⟨file, hfiles, rfl, rfl⟩, hbytes⟩ := h
  have hissues := (ofOutcomes_isSequential plan.read plan.root plan.files).issues_eq
  rw [hfiles, List.flatMap_singleton, hbytes] at hissues
  rw [Plan.report, hfiles]
  exact hissues

/-- Scanning a buffer and scanning the file agree, even for files that are no UTF-8. A content and
the text it reads as have the same findings. So if a path tells its language, the tool answers for
that path and the text of a content with the issues of the report on the one file, which is what
every audit of the file returns that no task asked too late in. -/
theorem buffer_scanned_as_file (content : Bytes) :
    findingsOfBytes (mended content) = findingsOfBytes content ∧
    encodeString (decodeString content) = mended content ∧
    ∀ path language, Language.ofPath? path = some language →
      ∀ plan : Plan, plan.IsForFile path language content →
        ∃ report,
          (∀ environment, ((Request.scanContent (decodeString content) path "").answer
            environment).result = .ok (Json.document (.arr (report.issues.map Issue.toJson)))) ∧
          report.issues = issuesOf path language (findingsOfBytes (mended content)) ∧
          (∀ metrics, (auditBy plan.read false metrics plan.root plan.files).map (·.report)
            = .ok report) ∧
          ∀ metrics actions s, Run plan { metrics := metrics } actions s → s.IsDone plan →
            ¬CheckedLate actions → s.result plan = .ok report := by
  refine ⟨findings_mended content, encodeString_decodeString content, ?_⟩
  intro path language hlanguage plan hplan
  refine ⟨plan.report, ?_, ?_, fun _ => rfl, ?_⟩
  · intro environment
    rw [Request.answer, auditContent_of_path hlanguage, encodeString_decodeString,
      findings_mended, ← hplan.issues_eq]
  · rw [findings_mended, hplan.issues_eq]
  · intro metrics actions s hrun hdone hlate
    exact hrun.sound.result_eq hdone hlate

/-- One file with a stray byte before a marker. -/
def strayFile : Plan where
  read _ := .ok (0xFF :: encode " # NOSONAR".toList)
  root := "/project"
  files := [{ path := "a.py", size := 11, ext := ".py", language := "py" }]
  limit := 1

theorem strayFile_isForFile :
    strayFile.IsForFile "a.py" "py" (0xFF :: encode " # NOSONAR".toList) where
  file := ⟨_, rfl, rfl, rfl⟩
  bytes := rfl

/-- An audit of it that nobody cancels finds the marker, and the tool answers with it. -/
theorem strayFile_buffer :
    Language.ofPath? "a.py" = some "py" ∧
    ∃ actions s report, Run strayFile { metrics := {} } actions s ∧ s.IsDone strayFile ∧
      s.result strayFile = .ok report ∧
      report.issues = [(markerFinding 1 1).toIssue "a.py" "py"] ∧
      ∀ environment, ((Request.scanContent (decodeString (0xFF :: encode " # NOSONAR".toList))
        "a.py" "").answer environment).result =
          .ok (Json.document (.arr (report.issues.map Issue.toJson))) := by
  have hlanguage : Language.ofPath? "a.py" = some "py" := by decide +kernel
  obtain ⟨-, -, hagree⟩ := buffer_scanned_as_file (0xFF :: encode " # NOSONAR".toList)
  obtain ⟨report, hanswer, hissues, -, hresult⟩ :=
    hagree "a.py" "py" hlanguage strayFile strayFile_isForFile
  have hstart : Run strayFile { metrics := {} } [] { metrics := {} } := .nil
  obtain ⟨actions, s, hcancel, hrun, hdone⟩ := hstart.ends Nat.one_pos
  have hlate : ¬CheckedLate actions := fun ⟨_, hsub⟩ => hcancel (hsub.subset List.mem_cons_self)
  refine ⟨hlanguage, actions, s, report, hrun, hdone, hresult _ _ _ hrun hdone hlate, ?_, hanswer⟩
  rw [hissues]
  decide +kernel

end InlineAudit
