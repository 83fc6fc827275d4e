import InlineAudit.Proofs.Detect.MarkerLine
import Mathlib.Data.Nat.Find

/-!
Where markers are reported. The platform drops what is reported on a marker line, so a marker is
reported on the line above it, and on the first line, which has none above it, on the second. This
looks at no other marker, and a line next to a marker can be a marker line as well. Above a run of
markers there is a line without one for the topmost of them to be reported on, unless the run
begins with the first line: its markers are all reported within it as soon as they are two. So all
of the findings are lost just where that run is the only one.
-/

namespace InlineAudit

open Detect Text

/-- A number of a line that has no marker finding. -/
def PlainLine (content : Bytes) (line : Int) : Prop :=
  (1 ≤ line ∧ line ≤ (byteLines content).length) ∧ ¬MarkerFound content line

instance (content : Bytes) (line : Int) : Decidable (PlainLine content line) :=
  inferInstanceAs (Decidable (_ ∧ _))

/-- Some marker finding is reported on a line that has none. -/
def MarkerSurfaces (content : Bytes) : Prop :=
  ∃ f ∈ findingsOfBytes content, f.category = .bareMarker ∧ PlainLine content f.reportLine

instance (content : Bytes) : Decidable (MarkerSurfaces content) :=
  inferInstanceAs (Decidable (∃ _ ∈ _, _))

/-- The lines with a marker finding are the first ones of a content, so many of them. -/
def MarkersLead (content : Bytes) (size : Nat) : Prop :=
  ∀ line : Int, MarkerFound content line ↔ 1 ≤ line ∧ line ≤ size

section

variable {content : Bytes}

/-- A marker finding is told by its line. -/
theorem mem_findings_marker_iff {f : Finding} :
    (f ∈ findingsOfBytes content ∧ f.category = .bareMarker) ↔
      ∃ line : Nat, MarkerFound content line ∧
        f = markerFinding (byteLines content).length line := by
  constructor
  · intro hf
    obtain ⟨i, _, _, _, rfl⟩ := mem_markersFrom_iff.mp (mem_markerCandidates_iff.mpr hf)
    exact ⟨1 + i, ⟨_, hf.1, hf.2, rfl⟩, rfl⟩
  · rintro ⟨line, ⟨g, hg, hcategory, hline⟩, rfl⟩
    obtain ⟨i, _, _, _, rfl⟩ :=
      mem_markersFrom_iff.mp (mem_markerCandidates_iff.mpr ⟨hg, hcategory⟩)
    obtain rfl : 1 + i = line := Int.ofNat_inj.mp hline
    exact ⟨hg, hcategory⟩

theorem MarkerFound.isLine {line : Int} (h : MarkerFound content line) :
    1 ≤ line ∧ line ≤ (byteLines content).length := by
  obtain ⟨f, hf, -, rfl⟩ := h
  rw [length_byteLines]
  exact (finding_placed hf).evidence

theorem markerSurfaces_iff :
    MarkerSurfaces content ↔ ∃ line : Nat, MarkerFound content line ∧
      PlainLine content (markerReportLine line (byteLines content).length) := by
  constructor
  · rintro ⟨f, hf, hcategory, hplain⟩
    obtain ⟨line, hfound, rfl⟩ := mem_findings_marker_iff.mp ⟨hf, hcategory⟩
    exact ⟨line, hfound, hplain⟩
  · rintro ⟨line, hfound, hplain⟩
    obtain ⟨hf, hcategory⟩ := mem_findings_marker_iff.mpr ⟨line, hfound, rfl⟩
    exact ⟨_, hf, hcategory, hplain⟩

/-- A line with a marker and a line without one are two lines. -/
theorem one_lt_lines (hfirst : MarkerFound content (1 : Nat))
    (hplain : ∃ line, PlainLine content line) : 1 < (byteLines content).length := by
  obtain ⟨line, ⟨hone, hle⟩, hnone⟩ := hplain
  by_contra hsingle
  obtain rfl : line = 1 := by omega
  exact hnone hfirst

/-- The run of markers that a content begins with ends before the first line without one. -/
theorem exists_leading_run (hplain : ∃ line, PlainLine content line) :
    ∃ size : Nat, ¬MarkerFound content (size + 1 : Nat) ∧
      ∀ line : Nat, 1 ≤ line → line ≤ size → MarkerFound content line := by
  have hend : ∃ size : Nat, ¬MarkerFound content (size + 1 : Nat) := by
    obtain ⟨line, ⟨hone, -⟩, hnone⟩ := hplain
    lift line to Nat using by omega
    exact ⟨line - 1, by rwa [Nat.sub_add_cancel (by omega)]⟩
  refine ⟨Nat.find hend, Nat.find_spec hend, fun line hone hle => ?_⟩
  have hmin := Nat.find_min hend (m := line - 1) (by omega)
  rwa [Nat.sub_add_cancel hone, not_not] at hmin

/-! ### Contents of which no marker surfaces -/

section Buried

variable (hburied : ¬MarkerSurfaces content)

include hburied

/-- What a marker is reported on has a marker itself. -/
theorem MarkerFound.report {line : Nat} (h : MarkerFound content line) {report : Nat}
    (hreport : markerReportLine line (byteLines content).length = report)
    (hone : 1 ≤ report) (hle : report ≤ (byteLines content).length) :
    MarkerFound content report := by
  by_contra hnone
  refine hburied (markerSurfaces_iff.mpr ⟨line, h, ?_⟩)
  rw [hreport]
  exact ⟨⟨by omega, by omega⟩, hnone⟩

theorem MarkerFound.above {line : Nat} (h : MarkerFound content (line + 1 : Nat))
    (hone : 1 ≤ line) : MarkerFound content line := by
  have hline := h.isLine
  refine h.report hburied ?_ hone (by omega)
  rw [markerReportLine, if_pos (by omega), Nat.add_sub_cancel]

theorem MarkerFound.second (h : MarkerFound content (1 : Nat))
    (hmany : 1 < (byteLines content).length) : MarkerFound content (2 : Nat) := by
  refine h.report hburied ?_ (by omega) hmany
  rw [markerReportLine, if_neg (by omega), if_pos hmany]

/-- Markers go up to the first line. -/
theorem MarkerFound.of_le {line below : Nat} (h : MarkerFound content below)
    (hone : 1 ≤ line) (hle : line ≤ below) : MarkerFound content line := by
  induction hle with
  | refl => exact h
  | @step below hle ih => exact ih (h.above hburied (Nat.le_trans hone hle))

/-- The markers of the content are the run it begins with, and that is of two lines or more. -/
theorem exists_markersLead (hmarker : ∃ line, MarkerFound content line)
    (hplain : ∃ line, PlainLine content line) : ∃ size, 2 ≤ size ∧ MarkersLead content size := by
  have hfirst : MarkerFound content (1 : Nat) := by
    obtain ⟨line, hfound⟩ := hmarker
    have hline := hfound.isLine
    lift line to Nat using by omega
    exact hfound.of_le hburied (Nat.le_refl 1) (by omega)
  obtain ⟨size, hend, hrun⟩ := exists_leading_run hplain
  have htwo : 2 ≤ size := by
    by_contra hsmall
    rcases (by omega : size = 0 ∨ size = 1) with rfl | rfl
    · exact hend hfirst
    · exact hend (hfirst.second hburied (one_lt_lines hfirst hplain))
  refine ⟨size, htwo, fun line => ⟨fun hfound => ?_, fun ⟨hone, hle⟩ => ?_⟩⟩
  · obtain ⟨hone, -⟩ := hfound.isLine
    lift line to Nat using by omega
    refine ⟨hone, ?_⟩
    by_contra hbehind
    exact hend (hfound.of_le hburied (by omega) (by omega))
  · lift line to Nat using by omega
    exact hrun line (by omega) (by omega)

end Buried

/-- Within two or more leading markers every marker is reported on one of them. -/
theorem MarkersLead.buried {size : Nat} (h : MarkersLead content size) (htwo : 2 ≤ size) :
    ¬MarkerSurfaces content := by
  rw [markerSurfaces_iff]
  rintro ⟨line, hfound, -, hnone⟩
  obtain ⟨hone, hle⟩ := (h line).mp hfound
  refine hnone ((h _).mpr ?_)
  rw [markerReportLine]
  grind

end

/-- Where something is marked and something is not, some marker finding is reported on a line
without one, unless the lines with markers are the first two or more of the content and no others:
then all of them are reported on each other. -/
theorem marker_surfaces_unless_leading (content : Bytes)
    (hmarker : ∃ line, MarkerFound content line) (hplain : ∃ line, PlainLine content line) :
    MarkerSurfaces content ↔ ¬∃ size, 2 ≤ size ∧ MarkersLead content size := by
  constructor
  · rintro hsurfaces ⟨size, htwo, hlead⟩
    exact hlead.buried htwo hsurfaces
  · intro hnone
    by_contra hburied
    exact hnone (exists_markersLead hburied hmarker hplain)

/-- Two markers at the top and one further down, which surfaces. -/
theorem marker_below_leading_surfaces :
    MarkerFound (encode "// NOSONAR\n// NOSONAR\nf();\ng(); // NOSONAR".toList) 4 ∧
    PlainLine (encode "// NOSONAR\n// NOSONAR\nf();\ng(); // NOSONAR".toList) 3 ∧
    MarkerSurfaces (encode "// NOSONAR\n// NOSONAR\nf();\ng(); // NOSONAR".toList) := by
  have hfound : MarkerFound (encode "// NOSONAR\n// NOSONAR\nf();\ng(); // NOSONAR".toList) 4 := by
    decide +kernel
  have hplain : PlainLine (encode "// NOSONAR\n// NOSONAR\nf();\ng(); // NOSONAR".toList) 3 := by
    decide +kernel
  refine ⟨hfound, hplain, (marker_surfaces_unless_leading _ ⟨4, hfound⟩ ⟨3, hplain⟩).mpr ?_⟩
  rintro ⟨size, -, hlead⟩
  have hle := ((hlead 4).mp hfound).2
  exact hplain.2 ((hlead 3).mpr ⟨by omega, by omega⟩)

/-- Two markers at the top and nothing else: the first is reported on the second line and the
second on the first. -/
theorem stacked_markers_swallowed :
    MarkerFound (encode "// NOSONAR\n// NOSONAR\nf();".toList) 1 ∧
    PlainLine (encode "// NOSONAR\n// NOSONAR\nf();".toList) 3 ∧
    ¬MarkerSurfaces (encode "// NOSONAR\n// NOSONAR\nf();".toList) := by
  refine ⟨?_, ?_, ?_⟩ <;> decide +kernel

end InlineAudit
