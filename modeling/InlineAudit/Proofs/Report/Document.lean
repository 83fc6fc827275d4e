import InlineAudit.Proofs.Json.Written
import InlineAudit.Report.Document

/-!
Reports read back from their documents. A reader goes by the names of fields, in any order, and
takes a field that is not there for a text, list or number that is empty or a flag that does not
hold. So what a document leaves out is what such a reader adds (`ofJson?_toJson`), and a report is
told by the text of its document (`document_round_trips`).
-/

namespace InlineAudit

open Json Text

/-! ### Reading by names -/

namespace Json.Value

def text? : Value → Option String
  | .str text => text.chars?.map String.ofList
  | _ => none

def int? : Value → Option Int
  | .int n => some n
  | _ => none

def bool? : Value → Option Bool
  | .bool b => some b
  | _ => none

/-- The items of an array, each read by itself. -/
def items? {α : Type} (read : Value → Option α) : Value → Option (List α)
  | .arr items => items.mapM read
  | _ => none

/-- What an object has under a key, or `absent` where it has nothing. -/
def field? {α : Type} (key : String) (absent : α) (read : Value → Option α) :
    Value → Option α
  | .obj fields =>
    match fields.lookup key with
    | some value => read value
    | none => some absent
  | _ => none

end Json.Value

def Issue.ofJson? (value : Value) : Option Issue := do
  let path ← value.field? "path" "" Value.text?
  let language ← value.field? "language" "" Value.text?
  let repository ← value.field? "repository" "" Value.text?
  let rule ← value.field? "rule" "" Value.text?
  let line ← value.field? "line" 0 Value.int?
  let evidenceLine ← value.field? "evidence_line" 0 Value.int?
  let category ← value.field? "category" "" Value.text?
  let message ← value.field? "message" "" Value.text?
  let rules ← value.field? "rules" [] (Value.items? Value.text?)
  let blanket ← value.field? "blanket" false Value.bool?
  return { path := path, language := language, repository := repository, rule := rule, line := line,
           evidenceLine := evidenceLine, category := ⟨category⟩, message := message, rules := rules,
           blanket := blanket }

def Report.ofJson? (value : Value) : Option Report := do
  let root ← value.field? "root" "" Value.text?
  let diffRef ← value.field? "diff_ref" "" Value.text?
  let filesScanned ← value.field? "files_scanned" 0 Value.int?
  let skipped ← value.field? "skipped" [] (Value.items? Value.text?)
  let issues ← value.field? "issues" [] (Value.items? Issue.ofJson?)
  return { root := root, diffRef := diffRef, filesScanned := filesScanned, skipped := skipped,
           issues := issues }

/-- A text is one JSON value, perhaps among white space, that reads as a report. -/
def Decodes (text : String) (report : Report) : Prop :=
  ∃ value rest, Reads text.toList value rest ∧ skipSpace rest = [] ∧
    Report.ofJson? value = some report

theorem text?_str (text : String) : (Value.str text).text? = some text := by
  simp [Value.text?, Raw.chars?, Raw.ofString, Symbol.isStray, Symbol.toChar, Function.comp_def]

theorem mapM_map_of_forall {α β : Type} {write : α → β} {read : β → Option α}
    (h : ∀ a, read (write a) = some a) (l : List α) : (l.map write).mapM read = some l := by
  induction l with
  | nil => rfl
  | cons a l ih => simp [h, ih]

theorem items?_strings (texts : List String) :
    (Value.strings texts).items? Value.text? = some texts :=
  mapM_map_of_forall text?_str texts

/-- Fields that are left out read as what they would have said. -/
theorem Issue.ofJson?_toJson (issue : Issue) : Issue.ofJson? issue.toJson = some issue := by
  obtain ⟨path, language, repository, rule, line, evidenceLine, category, message, rules,
    blanket⟩ := issue
  -- Only rules and the flag can be left out.
  cases rules <;> cases blanket <;>
    simp [Issue.ofJson?, Issue.toJson, Value.field?, listField, flagField, List.lookup_cons,
      text?_str, items?_strings, Value.int?, Value.bool?]

theorem items?_issues (issues : List Issue) :
    (Value.arr (issues.map Issue.toJson)).items? Issue.ofJson? = some issues :=
  mapM_map_of_forall Issue.ofJson?_toJson issues

theorem Report.ofJson?_toJson (report : Report) : Report.ofJson? report.toJson = some report := by
  obtain ⟨root, diffRef, filesScanned, skipped, issues⟩ := report
  by_cases href : diffRef = "" <;> cases skipped <;>
    simp [Report.ofJson?, Report.toJson, Value.field?, listField, href, List.lookup_cons, text?_str,
      items?_strings, items?_issues, Value.int?]

/-! ### Writing -/

section Clean

variable {key : String}

theorem arr_map_clean {α : Type} {write : α → Value} (h : ∀ a, (write a).Clean) (l : List α) :
    (Value.arr (l.map write)).Clean := by
  refine .arr fun item hitem => ?_
  obtain ⟨a, -, rfl⟩ := List.mem_map.mp hitem
  exact h a

theorem strings_clean (texts : List String) : (Value.strings texts).Clean :=
  arr_map_clean Value.Clean.str texts

theorem listField_clean (texts : List String) :
    ∀ field ∈ listField key texts, field.2.Clean := by
  unfold listField
  split
  · simp
  · simp [strings_clean texts]

theorem flagField_clean (flag : Bool) : ∀ field ∈ flagField key flag, field.2.Clean := by
  cases flag <;> simp [flagField, Value.Clean.bool]

end Clean

theorem Issue.toJson_clean (issue : Issue) : issue.toJson.Clean := by
  refine .obj ?_
  simp only [List.forall_mem_append]
  refine ⟨⟨?_, listField_clean issue.rules⟩, flagField_clean issue.blanket⟩
  simp [Value.Clean.str, Value.Clean.int]

theorem Report.toJson_clean (report : Report) : report.toJson.Clean := by
  refine .obj ?_
  simp only [List.forall_mem_append, List.forall_mem_singleton]
  refine ⟨⟨⟨⟨.str report.root, ?_⟩, .int report.filesScanned⟩, listField_clean report.skipped⟩,
    arr_map_clean Issue.toJson_clean report.issues⟩
  split
  · simp
  · simp [Value.Clean.str]

/-! ### Both -/

/-- A document names its report. Its text is one JSON value and a line break, it reads as the
report and as no other, and no two reports share it. -/
structure RoundTrips (report : Report) : Prop where
  /-- The only way to read the text as JSON. -/
  reads_iff : ∀ value rest, Reads report.json.toList value rest
    ↔ value = report.toJson ∧ rest = ['\n']
  decodes_iff : ∀ other, Decodes report.json other ↔ other = report
  json_eq_iff : ∀ other : Report, other.json = report.json ↔ other = report

theorem Report.reads_json_iff (report : Report) {value : Value} {rest : List Char} :
    Reads report.json.toList value rest ↔ value = report.toJson ∧ rest = ['\n'] :=
  document_reads_iff report.toJson_clean

theorem Report.decodes_json_iff (report other : Report) :
    Decodes report.json other ↔ other = report := by
  constructor
  · rintro ⟨value, rest, hreads, -, hread⟩
    obtain ⟨rfl, rfl⟩ := report.reads_json_iff.mp hreads
    exact Option.some.inj (hread.symm.trans report.ofJson?_toJson)
  · rintro rfl
    exact ⟨other.toJson, ['\n'], other.reads_json_iff.mpr ⟨rfl, rfl⟩, rfl, other.ofJson?_toJson⟩

theorem document_round_trips (report : Report) : RoundTrips report where
  reads_iff _ _ := report.reads_json_iff
  decodes_iff := report.decodes_json_iff
  json_eq_iff other := by
    constructor
    · intro h
      have hother := (other.decodes_json_iff other).mpr rfl
      rw [h] at hother
      exact (report.decodes_json_iff other).mp hother
    · rintro rfl
      rfl

end InlineAudit
