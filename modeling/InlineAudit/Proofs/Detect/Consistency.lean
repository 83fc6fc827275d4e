import InlineAudit.Proofs.Detect.Inspection
import InlineAudit.Proofs.Detect.Keys

/-!
What a finding says. Its rules are keys of one kind, its family fixes how they go with its blanket
flag, and its message can be read back: what is extracted from it are the rules of the finding and
nothing else, since the wording around the rules has no digits of its own.
-/

namespace InlineAudit

open Detect Text

namespace Detect

/-! ### Messages -/

section Rules

variable {rules : List String} (hdistinct : rules.Nodup)
  (hkeys : (∀ rule ∈ rules, IsPrefixedKey rule) ∨ ∀ rule ∈ rules, IsBareKey rule)

include hdistinct hkeys

theorem ruleReferences_annotationMessage {label : String} (hlabel : NoDigit label)
    (blanket : Bool) :
    ruleReferences (annotationMessage label ⟨rules, blanket⟩).toList =
      if blanket then [] else rules := by
  have hstart : NoDigit ("Remove this " ++ label) := NoDigit.append (by decide) hlabel
  unfold annotationMessage
  cases blanket with
  | true => exact ruleReferences_of_no_digit ((hstart.append (by decide)).append (by decide))
  | false =>
      have hmessage : "Remove this " ++ label ++ " annotation suppressing rule(s): " ++
          join ", " rules ++ ". " ++ notPermitted =
          sentence ("Remove this " ++ label ++ " annotation suppressing rule(s") rules
            (" " ++ notPermitted) := by
        simp only [sentence, String.append_assoc]
        rfl
      rw [if_neg Bool.false_ne_true, if_neg Bool.false_ne_true, hmessage]
      exact ruleReferences_sentence hdistinct hkeys (hstart.append (by decide)) (by decide)

theorem ruleReferences_attributeMessage {label : String} (hlabel : NoDigit label)
    (blanket : Bool) :
    ruleReferences (attributeMessage label ⟨rules, blanket⟩).toList = rules := by
  have hstart : NoDigit ("Remove this " ++ label) := NoDigit.append (by decide) hlabel
  unfold attributeMessage
  by_cases hnone : rules = []
  · have hdetail : NoDigit ("Remove this " ++ label ++ " attribute suppressing " ++
        (platform ++ " rules")) := (hstart.append (by decide)).append (by decide)
    simp only [hnone, List.isEmpty_nil, if_true]
    exact ruleReferences_of_no_digit ((hdetail.append (by decide)).append (by decide))
  · have hmessage : "Remove this " ++ label ++ " attribute suppressing " ++
        ("rule(s): " ++ join ", " rules) ++ ". " ++ notPermitted =
        sentence ("Remove this " ++ label ++ " attribute suppressing rule(s") rules
          (" " ++ notPermitted) := by
      simp only [sentence, String.append_assoc]
      rfl
    simp only [List.isEmpty_eq_false_iff.mpr hnone, Bool.false_eq_true, if_false, hmessage]
    exact ruleReferences_sentence hdistinct hkeys (hstart.append (by decide)) (by decide)

end Rules

/-! ### Verdicts -/

/-- What an attribute that counts is found to say: rules, or the platform instead of any. -/
theorem attributeVerdict_eq_some {payload : List Char} {verdict : Verdict}
    (h : attributeVerdict payload = some verdict) :
    verdict.rules = ruleReferences payload ∧
      (verdict.rules ≠ [] ∧ verdict.blanket = false ∨
        verdict.rules = [] ∧ verdict.blanket = true) := by
  rw [attributeVerdict] at h
  split at h
  · rename_i hrules
    obtain rfl := Option.some.inj h
    exact ⟨rfl, Or.inl ⟨by simpa using hrules, rfl⟩⟩
  · rename_i hrules
    obtain ⟨-, h⟩ := Option.ite_none_right_eq_some.mp h
    obtain rfl := Option.some.inj h
    exact ⟨by simpa using hrules, Or.inr ⟨rfl, rfl⟩⟩

/-- An annotation that counts names rules or silences everything. -/
theorem annotationVerdict_counts {payload : List Char} {verdict : Verdict}
    (h : annotationVerdict payload = some verdict) :
    verdict.rules ≠ [] ∨ verdict.blanket = true := by
  obtain ⟨hcounts, h⟩ := Option.ite_none_left_eq_some.mp h
  obtain rfl := Option.some.inj h
  simpa [or_iff_not_imp_left] using hcounts

end Detect

/-- A finding of an annotation. -/
def Finding.OfAnnotations (f : Finding) : Prop :=
  f.category ∈ [Category.annotationGeneric, .annotationVariant]

/-- A finding of an attribute. -/
def Finding.OfAttributes (f : Finding) : Prop :=
  f.category ∈ [Category.bracketAttribute, .angleAttribute]

instance (f : Finding) : Decidable f.OfAnnotations := inferInstanceAs (Decidable (_ ∈ _))

/-- A finding whose rules, blanket flag and message tell the same. -/
structure Consistent (f : Finding) : Prop where
  distinct : f.rules.Nodup
  keys : (∀ rule ∈ f.rules, IsPrefixedKey rule) ∨ ∀ rule ∈ f.rules, IsBareKey rule
  no_blank : ∀ rule ∈ f.rules, ∀ c ∈ rule.toList, isBlank c = false
  of_marker : f.category = .bareMarker → f.rules = [] ∧ f.blanket = false ∧
    ("(line " ++ toString f.evidenceLine ++ ")").toList <:+: f.message.toList
  of_annotation : f.OfAnnotations → f.rules ≠ [] ∨ f.blanket = true
  of_attribute : f.OfAttributes →
    f.rules ≠ [] ∧ f.blanket = false ∨ f.rules = [] ∧ f.blanket = true
  of_directive : f.category ≠ .bareMarker →
    ruleReferences f.message.toList = if f.OfAnnotations ∧ f.blanket = true then [] else f.rules

namespace Detect

theorem line_mem_markerMessage (line : Nat) :
    ("(line " ++ toString line ++ ")").toList <:+: (markerMessage line).toList := by
  unfold markerMessage
  refine ⟨("Remove this use of " ++ quote marker ++ " ").toList,
    (". " ++ "Suppressing SonarQube issues inline is not permitted.").toList, ?_⟩
  simp only [String.toList_append, List.append_assoc]
  rfl

theorem markerFinding_consistent (total line : Nat) : Consistent (markerFinding total line) where
  distinct := List.nodup_nil
  keys := Or.inl (List.forall_mem_nil _)
  no_blank := List.forall_mem_nil _
  of_marker _ := ⟨rfl, rfl, line_mem_markerMessage line⟩
  of_annotation h := by
    have hother : .bareMarker ∉ [Category.annotationGeneric, .annotationVariant] := by decide
    exact absurd h hother
  of_attribute h := by
    have hother : .bareMarker ∉ [Category.bracketAttribute, .angleAttribute] := by decide
    exact absurd h hother
  of_directive h := absurd rfl h

/-- What a directive says of itself: annotations are judged and worded as annotations, attributes
as attributes. -/
theorem directive_wording : ∀ d ∈ directives, NoDigit d.family.label ∧
    (d.family.category ∈ [.annotationGeneric, .annotationVariant] ∧
        d.family.judge = annotationVerdict ∧ d.family.message = annotationMessage ∨
      d.family.category ∈ [.bracketAttribute, .angleAttribute] ∧
        d.family.judge = attributeVerdict ∧ d.family.message = attributeMessage) := by
  simp only [directives, List.forall_mem_cons, List.not_mem_nil, false_implies, implies_true,
    and_true]
  exact ⟨⟨by decide, Or.inl ⟨by decide, rfl, rfl⟩⟩, ⟨by decide, Or.inl ⟨by decide, rfl, rfl⟩⟩,
    ⟨by decide, Or.inr ⟨by decide, rfl, rfl⟩⟩, ⟨by decide, Or.inr ⟨by decide, rfl, rfl⟩⟩⟩

theorem directiveFinding_consistent {d : Directive} (hd : d ∈ directives) {payload : List Char}
    {verdict : Verdict} (hjudge : d.family.judge payload = some verdict) (line : Nat) :
    Consistent (d.family.finding line verdict) := by
  obtain ⟨hlabel, hkind⟩ := directive_wording d hd
  have hrules : verdict.rules = ruleReferences payload := by
    rcases hkind with ⟨-, hkind, -⟩ | ⟨-, hkind, -⟩
    · rw [hkind] at hjudge
      exact (annotationVerdict_eq_some hjudge).1
    · rw [hkind] at hjudge
      exact (attributeVerdict_eq_some hjudge).1
  have hdistinct : verdict.rules.Nodup := hrules ▸ ruleReferences_nodup payload
  have hkeys : (∀ rule ∈ verdict.rules, IsPrefixedKey rule) ∨
      ∀ rule ∈ verdict.rules, IsBareKey rule := hrules ▸ ruleReferences_keys payload
  have hapart : ∀ category ∈ [Category.bracketAttribute, .angleAttribute],
      category ∉ [Category.annotationGeneric, .annotationVariant] := by decide
  constructor
  case distinct => exact hdistinct
  case keys => exact hkeys
  case no_blank =>
    intro rule hrule
    rcases hkeys with hprefixed | hbare
    · exact (hprefixed rule hrule).no_blank
    · exact (hbare rule hrule).no_blank
  case of_marker => exact fun h => absurd h (directive_category d hd).2
  case of_annotation =>
    intro h
    rcases hkind with ⟨-, hkind, -⟩ | ⟨hcategory, -⟩
    · rw [hkind] at hjudge
      exact annotationVerdict_counts hjudge
    · exact absurd h (hapart _ hcategory)
  case of_attribute =>
    intro h
    rcases hkind with ⟨hcategory, -⟩ | ⟨-, hkind, -⟩
    · exact absurd hcategory (hapart _ h)
    · rw [hkind] at hjudge
      exact (attributeVerdict_eq_some hjudge).2
  case of_directive =>
    intro _
    rcases hkind with ⟨hcategory, -, hmessage⟩ | ⟨hcategory, -, hmessage⟩
    · have hread := ruleReferences_annotationMessage hdistinct hkeys hlabel verdict.blanket
      have hof : (d.family.finding line verdict).OfAnnotations := hcategory
      rw [if_congr (and_iff_right hof) rfl rfl]
      simpa only [Family.finding, hmessage] using hread
    · have hread := ruleReferences_attributeMessage hdistinct hkeys hlabel verdict.blanket
      have hof : ¬(d.family.finding line verdict).OfAnnotations := hapart _ hcategory
      rw [if_neg fun h => hof h.1]
      simpa only [Family.finding, hmessage] using hread

end Detect

/-- Every finding tells one story: its rules are keys of one kind, each once and without white
space, and its message names just those; a marker names its line instead, an annotation that
silences everything is told as such whatever rules it names, and an attribute has rules or is
blanket, never both. -/
theorem findings_consistent (content : Bytes) : ∀ f ∈ findingsOfBytes content, Consistent f := by
  intro f hf
  rw [findingsOfBytes_eq_firstOnLine] at hf
  obtain ⟨pass, hpass, hf⟩ := mem_candidates_iff.mp ((firstOnLine_sublist _).mem hf)
  rcases List.mem_cons.mp hpass with rfl | hpass
  · obtain ⟨i, line, -, -, rfl⟩ := mem_markersFrom_iff.mp hf
    exact markerFinding_consistent ..
  · obtain ⟨d, hd, rfl⟩ := List.mem_map.mp hpass
    obtain ⟨found, -, verdict, hjudge, rfl⟩ := Directive.mem_candidates_iff.mp hf
    exact directiveFinding_consistent hd hjudge _

/-- A marker, and an annotation that names a rule and silences everything. -/
def markedAndSilenced : Bytes :=
  encode "f(); // NOSONAR\n@SuppressWarnings(\"all\", \"java : S1234\")".toList

theorem markedAndSilenced_consistent :
    (markerFinding 2 1 ∈ findingsOfBytes markedAndSilenced ∧ Consistent (markerFinding 2 1)) ∧
      Family.annotationGeneric.finding 2 ⟨["java:S1234"], true⟩ ∈
          findingsOfBytes markedAndSilenced ∧
        Consistent (Family.annotationGeneric.finding 2 ⟨["java:S1234"], true⟩) := by
  have hfound : findingsOfBytes markedAndSilenced =
      [markerFinding 2 1, Family.annotationGeneric.finding 2 ⟨["java:S1234"], true⟩] := by
    decide +kernel
  have hmarker : markerFinding 2 1 ∈ findingsOfBytes markedAndSilenced := by simp [hfound]
  have hblanket : Family.annotationGeneric.finding 2 ⟨["java:S1234"], true⟩ ∈
      findingsOfBytes markedAndSilenced := by simp [hfound]
  exact ⟨⟨hmarker, findings_consistent _ _ hmarker⟩, hblanket, findings_consistent _ _ hblanket⟩

end InlineAudit
