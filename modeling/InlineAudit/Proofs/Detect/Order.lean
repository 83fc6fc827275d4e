import InlineAudit.Proofs.Detect.Ownership
import InlineAudit.Proofs.Text.Lines
import InlineAudit.Proofs.Text.Utf8

/-!
How the findings of a content are arranged. They stand pass by pass and, within a pass, in the
order of their lines; no two share a line, all their lines are lines of the content, and only
markers are reported on a line other than their own.
-/

namespace InlineAudit

open Detect Text

/-- A finding in a content of `total` lines: where it may lie and where it may be reported. -/
structure Placed (total : Nat) (f : Finding) : Prop where
  evidence : 1 ≤ f.evidenceLine ∧ f.evidenceLine ≤ total
  report : 1 ≤ f.reportLine ∧ f.reportLine ≤ total
  category : f.category ∈ Category.all
  directive : f.category ≠ .bareMarker → f.reportLine = f.evidenceLine
  marker : f.category = .bareMarker → 1 < total →
    f.reportLine = f.evidenceLine - 1 ∨ f.reportLine = f.evidenceLine + 1
  marker_alone : f.category = .bareMarker → total = 1 → f.reportLine = f.evidenceLine

/-- The findings of a content of `total` lines, all of them together. -/
structure Arranged (total : Nat) (found : List Finding) : Prop where
  placed : ∀ f ∈ found, Placed total f
  distinct : (found.map (·.evidenceLine)).Nodup
  passes : found.Pairwise fun a b =>
    Category.all.idxOf a.category ≤ Category.all.idxOf b.category
  lines : found.Pairwise fun a b => a.category = b.category → a.evidenceLine < b.evidenceLine

/-- The order of candidates: by pass, then by line. -/
def Precedes (a b : Finding) : Prop :=
  Category.all.idxOf a.category < Category.all.idxOf b.category ∨
    a.category = b.category ∧ a.evidenceLine ≤ b.evidenceLine

namespace Detect

theorem Directive.candidates_precede (d : Directive) (text : List Char) :
    (d.candidates text).Pairwise Precedes := by
  refine (d.pattern.starts_increasing text).filterMap _ ?_
  intro first second hlt a ha b hb
  obtain ⟨_, _, rfl⟩ := Option.map_eq_some_iff.mp ha
  obtain ⟨_, _, rfl⟩ := Option.map_eq_some_iff.mp hb
  have hle := lineAt_mono text (Nat.le_of_lt hlt)
  exact Or.inr ⟨rfl, Int.ofNat_le.mpr hle⟩

theorem markersFrom_increasing (total first : Nat) (lines : List Bytes) :
    (markersFrom total first lines).Pairwise fun a b => a.evidenceLine < b.evidenceLine := by
  induction lines generalizing first with
  | nil => exact List.Pairwise.nil
  | cons line lines ih =>
      rw [markersFrom_cons, List.pairwise_append]
      refine ⟨by split <;> simp, ih (first + 1), ?_⟩
      intro a ha b hb
      obtain rfl : a = markerFinding total first := by
        split at ha
        · exact List.mem_singleton.mp ha
        · cases ha
      obtain ⟨i, _, _, _, rfl⟩ := mem_markersFrom_iff.mp hb
      exact Int.ofNat_lt.mpr (by omega)

theorem markersFrom_precede (total first : Nat) (lines : List Bytes) :
    (markersFrom total first lines).Pairwise Precedes := by
  refine (markersFrom_increasing total first lines).imp_of_mem ?_
  intro a b ha hb hlt
  obtain ⟨_, _, _, _, rfl⟩ := mem_markersFrom_iff.mp ha
  obtain ⟨_, _, _, _, rfl⟩ := mem_markersFrom_iff.mp hb
  exact Or.inr ⟨rfl, Int.le_of_lt hlt⟩

end Detect

theorem passes_categories (content : Bytes) : (passes content).map (·.1) = Category.all := rfl

theorem candidates_precede (content : Bytes) : (candidates content).Pairwise Precedes := by
  rw [candidates, List.pairwise_flatMap]
  constructor
  · intro pass hpass
    rcases List.mem_cons.mp hpass with rfl | hpass
    · exact markersFrom_precede ..
    · obtain ⟨d, -, rfl⟩ := List.mem_map.mp hpass
      exact d.candidates_precede _
  · -- between passes the category alone decides
    have hcategories : Category.all.Pairwise fun a b =>
        Category.all.idxOf a < Category.all.idxOf b := by decide
    rw [← passes_categories content, List.pairwise_map] at hcategories
    refine hcategories.imp_of_mem ?_
    intro first second hfirst hsecond hlt a ha b hb
    left
    rw [mem_passes_category hfirst ha, mem_passes_category hsecond hb]
    exact hlt

theorem firstOnLine_distinct (found : List Finding) :
    ((firstOnLine found).map (·.evidenceLine)).Nodup := by
  induction found using List.reverseRecOn with
  | nil => exact List.nodup_nil
  | append_singleton found f ih =>
      rw [firstOnLine_concat]
      split
      · rwa [List.append_nil]
      · rename_i hfree
        rw [List.map_append, List.nodup_append]
        refine ⟨ih, by simp, ?_⟩
        intro line hline other hother
        obtain ⟨earlier, hearlier, rfl⟩ := List.mem_map.mp hline
        obtain rfl := List.mem_singleton.mp hother
        exact fun heq => hfree ⟨earlier, (firstOnLine_sublist found).mem hearlier, heq⟩

theorem markerFinding_placed {total line : Nat} (hone : 1 ≤ line) (hle : line ≤ total) :
    Placed total (markerFinding total line) where
  evidence := ⟨Int.ofNat_le.mpr hone, Int.ofNat_le.mpr hle⟩
  report := by
    simp only [markerFinding, markerReportLine]
    grind
  category := by simp [markerFinding, Category.all]
  directive h := absurd rfl h
  marker _ _ := by
    simp only [markerFinding, markerReportLine]
    grind
  marker_alone _ _ := by
    simp only [markerFinding, markerReportLine]
    grind

theorem directive_placed {d : Directive} (hd : d ∈ directives) {total line : Nat}
    (hone : 1 ≤ line) (hle : line ≤ total) (verdict : Verdict) :
    Placed total (d.family.finding line verdict) where
  evidence := ⟨Int.ofNat_le.mpr hone, Int.ofNat_le.mpr hle⟩
  report := ⟨Int.ofNat_le.mpr hone, Int.ofNat_le.mpr hle⟩
  category := (directive_category d hd).1
  directive _ := rfl
  marker h _ := absurd h (directive_category d hd).2
  marker_alone _ _ := rfl

/-- The two ways of counting lines agree: markers count the lines of the bytes, the other passes
the line feeds of the text. -/
theorem candidate_placed {content : Bytes} {c : Finding} (hc : c ∈ candidates content) :
    Placed (1 + content.count 0x0A) c := by
  have htotal : (byteLines content).length = 1 + content.count 0x0A := length_splitAt 0x0A content
  obtain ⟨pass, hpass, hc⟩ := mem_candidates_iff.mp hc
  rcases List.mem_cons.mp hpass with rfl | hpass
  · obtain ⟨i, line, hat, _, rfl⟩ := mem_markersFrom_iff.mp hc
    have hlt := (List.getElem?_eq_some_iff.mp hat).1
    rw [htotal] at hlt ⊢
    exact markerFinding_placed (by omega) (by omega)
  · obtain ⟨d, hd, rfl⟩ := List.mem_map.mp hpass
    obtain ⟨found, _, verdict, _, rfl⟩ := Directive.mem_candidates_iff.mp hc
    have hle := lineAt_le (decode content) found.start
    rw [count_lineFeed_decode] at hle
    exact directive_placed hd (one_le_lineAt ..) hle verdict

theorem finding_placed {content : Bytes} {f : Finding} (hf : f ∈ findingsOfBytes content) :
    Placed (1 + content.count 0x0A) f := by
  rw [findingsOfBytes_eq_firstOnLine] at hf
  exact candidate_placed ((firstOnLine_sublist (candidates content)).mem hf)

/-- What comes out for a content of any kind is arranged among its lines. -/
theorem findings_arranged (content : Bytes) :
    Arranged (1 + content.count 0x0A) (findingsOfBytes content) := by
  rw [findingsOfBytes_eq_firstOnLine]
  have hsub := firstOnLine_sublist (candidates content)
  have hdistinct := firstOnLine_distinct (candidates content)
  have hprecede := (candidates_precede content).sublist hsub
  constructor
  · exact fun f hf => candidate_placed (hsub.mem hf)
  · exact hdistinct
  · refine hprecede.imp ?_
    rintro a b (hlt | ⟨heq, -⟩)
    · exact Nat.le_of_lt hlt
    · exact Nat.le_of_eq (by rw [heq])
  · -- lines only grow within a pass, and no line comes twice
    refine (hprecede.and (List.pairwise_map.mp hdistinct)).imp ?_
    rintro a b ⟨hlt | ⟨-, hle⟩, hne⟩ hsame
    · rw [hsame] at hlt
      exact absurd hlt (Nat.lt_irrefl _)
    · exact Int.lt_iff_le_and_ne.mpr ⟨hle, hne⟩

end InlineAudit
