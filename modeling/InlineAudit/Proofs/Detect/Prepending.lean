import InlineAudit.Proofs.Detect.Numbering
import InlineAudit.Proofs.Detect.Order

/-!
Findings under text that is put before a content. A text without the characters that directives
begin with has no finding but its markers, and all it does to what follows is to move it down by
its lines: the passes number lines in two different ways, and both go on counting. Which findings
share a line is kept by moving, so the claims on lines come out the same.

Markers alone are told apart from a mere move. Their message names their line, and they are
reported on the line above; the first line has none above it and is reported on the second, which
is there as soon as anything follows.
-/

namespace InlineAudit

open Detect Text

namespace Detect

/-! ### Openers -/

/-- The characters that directives begin with. -/
def openers : List Char := ['@', '[', '<']

theorem annotationShape_unseen {name : String} {first : Char} {letters : List Char}
    (hname : name.toList = first :: letters) {c : Char} (hc : c ≠ first) (before : Option Char)
    (text : List Char) : annotationShape name before (c :: text) = none := by
  simp [annotationShape, hname, after?, hc.symm]

theorem attributeShape_unseen {read : WordReader} {qualifier name : String} {opening close c : Char}
    (hc : c ≠ opening) (before : Option Char) (text : List Char) :
    attributeShape read qualifier name opening close before (c :: text) = none := by
  simp [attributeShape, after?, hc.symm]

theorem directive_unseen {c : Char} (hc : c ∉ openers) : ∀ d ∈ directives, ∀ before text,
    d.family.shape before (c :: text) = none := by
  simp only [openers, List.mem_cons, List.not_mem_nil, or_false, not_or] at hc
  obtain ⟨hat, hbracket, hangle⟩ := hc
  simp only [directives, List.forall_mem_cons, List.not_mem_nil, false_implies, implies_true,
    and_true]
  exact ⟨annotationShape_unseen rfl hat, annotationShape_unseen rfl hat,
    attributeShape_unseen hbracket, attributeShape_unseen hangle⟩

end Detect

/-! ### Moving findings -/

/-- A finding of a directive, so many lines further down. -/
def Finding.moveDirective (lines : Nat) (f : Finding) : Finding :=
  { f with
    reportLine := f.reportLine + lines
    evidenceLine := f.evidenceLine + lines }

/-- A finding of a marker, so many lines further down in a content of several lines. It is
reported on the line before, or on the second line if there is none. -/
def Finding.moveMarker (lines : Nat) (f : Finding) : Finding :=
  { f with
    reportLine := if f.evidenceLine + lines = 1 then 2 else f.evidenceLine + lines - 1
    evidenceLine := f.evidenceLine + lines
    message := markerMessage (f.evidenceLine + lines).toNat }

theorem moveMarker_markerFinding {total line : Nat} (htotal : 1 < total) (hline : 1 ≤ line)
    (other lines : Nat) :
    markerFinding total (line + lines) = (markerFinding other line).moveMarker lines := by
  have hreport : (markerReportLine (line + lines) total : Int) =
      if (line + lines : Int) = 1 then 2 else (line + lines : Int) - 1 := by
    rw [markerReportLine]
    split
    · rw [if_neg (by omega)]
      omega
    · rw [if_pos (by omega)]
      omega
  simp only [markerFinding, Finding.moveMarker, hreport, Int.natCast_add, Finding.mk.injEq,
    true_and, and_true]
  exact ⟨rfl, congrArg markerMessage (by omega)⟩

theorem moveDirective_finding (family : Family) (line lines : Nat) (verdict : Verdict) :
    family.finding (line + lines) verdict = (family.finding line verdict).moveDirective lines := by
  simp [Family.finding, Finding.moveDirective]

namespace Detect

theorem markersFrom_append (total first : Nat) (lines more : List Bytes) :
    markersFrom total first (lines ++ more) =
      markersFrom total first lines ++ markersFrom total (first + lines.length) more := by
  simp only [markersFrom, List.zipIdx_append, List.filterMap_append]

theorem markersFrom_move {total first : Nat} (htotal : 1 < total) (hfirst : 1 ≤ first)
    (other below : Nat) (lines : List Bytes) :
    markersFrom total (first + below) lines =
      (markersFrom other first lines).map (Finding.moveMarker below) := by
  induction lines generalizing first with
  | nil => rfl
  | cons line lines ih =>
      rw [markersFrom_cons, markersFrom_cons, Nat.add_right_comm, ih (Nat.le_add_left ..),
        moveMarker_markerFinding htotal hfirst other, List.map_append]
      split <;> rfl

theorem Directive.candidates_eq_sights {d : Directive} (hd : d ∈ directives) (text : List Char) :
    d.candidates text = (sights d.family.shape text).filterMap fun sight =>
      (d.family.judge sight.2).map (d.family.finding (lineAt text sight.1)) := by
  rw [(directive_seenBy d hd).sights_eq, List.filterMap_map]
  rfl

/-- A text without openers adds nothing but its lines to the candidates of what follows it. -/
theorem Directive.candidates_append {d : Directive} (hd : d ∈ directives) {front : List Char}
    (hfront : ∀ c ∈ front, c ∉ openers) (back : List Char) :
    d.candidates (front ++ back) =
      (d.candidates back).map (Finding.moveDirective (front.count '\n')) := by
  have hsee : ∀ before before' text, d.family.shape before text = d.family.shape before' text := by
    intro before before' text
    rw [(directive_seenBy d hd).see_eq, (directive_seenBy d hd).see_eq]
  have hunseen : ∀ c ∈ front, ∀ before text, d.family.shape before (c :: text) = none :=
    fun c hc => directive_unseen (hfront c hc) d hd
  rw [Directive.candidates_eq_sights hd, Directive.candidates_eq_sights hd,
    sights_append_of_unseen hsee hunseen, List.filterMap_map, List.map_filterMap]
  refine congrArg (List.filterMap · _) (funext fun sight => ?_)
  rw [Function.comp_apply, Option.map_map, Nat.add_comm, lineAt_append]
  refine congrArg (Option.map · _) (funext fun verdict => ?_)
  exact moveDirective_finding ..

end Detect

/-! ### Keeping the first on a line -/

theorem firstOnLine_append (earlier later : List Finding) :
    firstOnLine (earlier ++ later) = firstOnLine earlier ++
      (firstOnLine later).filter fun f => ∀ e ∈ earlier, e.evidenceLine ≠ f.evidenceLine := by
  induction later using List.reverseRecOn with
  | nil => simp [firstOnLine]
  | append_singleton later f ih =>
      -- the last one stays just if neither part has its line
      have hlast : (if ∃ e ∈ earlier ++ later, e.evidenceLine = f.evidenceLine then [] else [f]) =
          (if ∃ e ∈ later, e.evidenceLine = f.evidenceLine then [] else [f]).filter fun f =>
            ∀ e ∈ earlier, e.evidenceLine ≠ f.evidenceLine := by
        simp only [List.mem_append, or_and_right, exists_or]
        by_cases hlater : ∃ e ∈ later, e.evidenceLine = f.evidenceLine
        · rw [if_pos (Or.inr hlater), if_pos hlater, List.filter_nil]
        · by_cases hearlier : ∃ e ∈ earlier, e.evidenceLine = f.evidenceLine
          · rw [if_pos (Or.inl hearlier), if_neg hlater]
            simpa using hearlier
          · rw [if_neg (not_or.mpr ⟨hearlier, hlater⟩), if_neg hlater]
            exact (List.filter_eq_self.mpr (by simpa using hearlier)).symm
      rw [← List.append_assoc, firstOnLine_concat, ih, firstOnLine_concat, List.filter_append,
        List.append_assoc, hlast]

theorem firstOnLine_of_distinct {found : List Finding}
    (h : found.Pairwise fun a b => a.evidenceLine ≠ b.evidenceLine) :
    firstOnLine found = found := by
  induction found using List.reverseRecOn with
  | nil => rfl
  | append_singleton found f ih =>
      obtain ⟨hfound, -, hf⟩ := List.pairwise_append.mp h
      rw [firstOnLine_concat, ih hfound, if_neg]
      rintro ⟨e, he, hline⟩
      exact hf e he f (List.mem_singleton_self f) hline

/-- Moving findings keeps which of them share a line. -/
theorem firstOnLine_map {move : Finding → Finding}
    (hmove : ∀ f g, (move f).evidenceLine = (move g).evidenceLine ↔
      f.evidenceLine = g.evidenceLine) (found : List Finding) :
    firstOnLine (found.map move) = (firstOnLine found).map move := by
  induction found using List.reverseRecOn with
  | nil => rfl
  | append_singleton found f ih =>
      rw [List.map_append, List.map_singleton, firstOnLine_concat, firstOnLine_concat, ih,
        List.map_append]
      have hsame : (∃ e ∈ found.map move, e.evidenceLine = (move f).evidenceLine) ↔
          ∃ e ∈ found, e.evidenceLine = f.evidenceLine := by
        simp only [List.mem_map, exists_exists_and_eq_and, hmove]
      simp only [hsame]
      split <;> rfl

/-! ### Contents put together -/

/-- The marker findings of a content. -/
def markersOf (content : Bytes) : List Finding :=
  (findingsOfBytes content).filter fun f => f.category = .bareMarker

/-- The findings of a content that are due to directives. -/
def directivesOf (content : Bytes) : List Finding :=
  (findingsOfBytes content).filter fun f => f.category ≠ .bareMarker

/-- The accepted matches of all directives. -/
def directiveCandidates (content : Bytes) : List Finding :=
  directives.flatMap (·.candidates (decode content))

/-- The markers of a content, numbered from its first line on. -/
def markerCandidates (content : Bytes) : List Finding :=
  markersFrom (byteLines content).length 1 (byteLines content)

theorem candidates_eq_append (content : Bytes) :
    candidates content = markerCandidates content ++ directiveCandidates content := by
  rw [candidates, passes, List.flatMap_cons, List.flatMap_map]
  rfl

theorem findingsOfBytes_eq_append (content : Bytes) :
    findingsOfBytes content = markerCandidates content ++
      (firstOnLine (directiveCandidates content)).filter fun f =>
        ∀ e ∈ markerCandidates content, e.evidenceLine ≠ f.evidenceLine := by
  have hmarkers : firstOnLine (markerCandidates content) = markerCandidates content :=
    firstOnLine_of_distinct ((markersFrom_increasing ..).imp Int.ne_of_lt)
  rw [findingsOfBytes_eq_firstOnLine, candidates_eq_append, firstOnLine_append, hmarkers]

theorem category_of_mem_markerCandidates {content : Bytes} {f : Finding}
    (h : f ∈ markerCandidates content) : f.category = .bareMarker :=
  mem_passes_category List.mem_cons_self h

theorem category_of_mem_directiveCandidates {content : Bytes} {f : Finding}
    (h : f ∈ directiveCandidates content) : f.category ≠ .bareMarker := by
  obtain ⟨d, hd, hf⟩ := List.mem_flatMap.mp h
  obtain ⟨_, _, _, _, rfl⟩ := Directive.mem_candidates_iff.mp hf
  exact (directive_category d hd).2

theorem markersOf_eq (content : Bytes) : markersOf content = markerCandidates content := by
  rw [markersOf, findingsOfBytes_eq_append, List.filter_append, List.filter_eq_self.mpr,
    List.filter_eq_nil_iff.mpr, List.append_nil]
  · intro f hf
    have hcandidate := (firstOnLine_sublist _).mem (List.mem_filter.mp hf).1
    simpa using category_of_mem_directiveCandidates hcandidate
  · intro f hf
    simpa using category_of_mem_markerCandidates hf

theorem mem_markerCandidates_iff {content : Bytes} {f : Finding} :
    f ∈ markerCandidates content ↔ f ∈ findingsOfBytes content ∧ f.category = .bareMarker := by
  rw [← markersOf_eq, markersOf, List.mem_filter, decide_eq_true_iff]

theorem directivesOf_eq (content : Bytes) :
    directivesOf content = (firstOnLine (directiveCandidates content)).filter fun f =>
      ∀ e ∈ markerCandidates content, e.evidenceLine ≠ f.evidenceLine := by
  rw [directivesOf, findingsOfBytes_eq_append, List.filter_append, List.filter_eq_nil_iff.mpr,
    List.nil_append, List.filter_eq_self.mpr]
  · intro f hf
    have hcandidate := (firstOnLine_sublist _).mem (List.mem_filter.mp hf).1
    simpa using category_of_mem_directiveCandidates hcandidate
  · intro f hf
    simpa using category_of_mem_markerCandidates hf

theorem markerCandidates_append (front back : Bytes) :
    markerCandidates (front ++ 0x0A :: back) =
      (markerCandidates front).map (Finding.moveMarker 0) ++
        (markerCandidates back).map (Finding.moveMarker (1 + front.count 0x0A)) := by
  have htotal : 1 < (byteLines front ++ byteLines back).length := by
    rw [List.length_append, length_byteLines, length_byteLines]
    omega
  rw [markerCandidates, byteLines_append, markersFrom_append, ← length_byteLines front,
    markersFrom_move htotal (Nat.le_refl 1) (byteLines back).length]
  exact congrArg (· ++ _) (markersFrom_move htotal (Nat.le_refl 1) (byteLines front).length 0 _)

theorem directiveCandidates_append {front : Bytes} (hfront : ∀ c ∈ openers, c ∉ decode front)
    (back : Bytes) :
    directiveCandidates (front ++ 0x0A :: back) =
      (directiveCandidates back).map (Finding.moveDirective (1 + front.count 0x0A)) := by
  have hunseen : ∀ c ∈ decode front ++ ['\n'], c ∉ openers := by
    intro c hc hopener
    rcases List.mem_append.mp hc with hc | hc
    · exact hfront c hopener hc
    · obtain rfl := List.mem_singleton.mp hc
      exact absurd hopener (by decide)
  have hcount : (decode front ++ ['\n']).count '\n' = 1 + front.count 0x0A := by
    rw [List.count_append, count_lineFeed_decode, List.count_singleton_self, Nat.add_comm]
  rw [directiveCandidates, directiveCandidates, decode_lineFeed_append, List.map_flatMap]
  refine List.flatMap_congr fun d hd => ?_
  rw [d.candidates_append hd hunseen, hcount]

theorem one_le_of_mem_directiveCandidates {content : Bytes} {f : Finding}
    (h : f ∈ directiveCandidates content) : 1 ≤ f.evidenceLine := by
  have hcandidate : f ∈ candidates content := by
    rw [candidates_eq_append]
    exact List.mem_append_right _ h
  exact (candidate_placed hcandidate).evidence.1

theorem le_of_mem_markerCandidates {content : Bytes} {f : Finding}
    (h : f ∈ markerCandidates content) : f.evidenceLine ≤ (1 + content.count 0x0A : Nat) := by
  have hcandidate : f ∈ candidates content := by
    rw [candidates_eq_append]
    exact List.mem_append_left _ h
  exact (candidate_placed hcandidate).evidence.2

/-- Findings compose when text is put before a content. If the text has no opener, they are the
markers of the text, then those of the content and then its directives, moved down by the lines of
the text. -/
theorem findings_prepend_text (front back : Bytes) (hfront : ∀ c ∈ openers, c ∉ decode front) :
    findingsOfBytes (front ++ 0x0A :: back) =
      (markersOf front).map (Finding.moveMarker 0) ++
      (markersOf back).map (Finding.moveMarker (1 + front.count 0x0A)) ++
      (directivesOf back).map (Finding.moveDirective (1 + front.count 0x0A)) := by
  have hmove : ∀ f g : Finding,
      (f.moveDirective (1 + front.count 0x0A)).evidenceLine =
        (g.moveDirective (1 + front.count 0x0A)).evidenceLine ↔
      f.evidenceLine = g.evidenceLine := fun f g => Int.add_left_inj _
  rw [findingsOfBytes_eq_append, markerCandidates_append, directiveCandidates_append hfront,
    firstOnLine_map hmove, markersOf_eq, markersOf_eq, directivesOf_eq, List.filter_map]
  refine congrArg (fun kept => _ ++ List.map _ kept) (List.filter_congr fun f hf => ?_)
  -- the markers of the front are above all directives, those of the back move with them
  have hbelow := one_le_of_mem_directiveCandidates ((firstOnLine_sublist _).mem hf)
  refine decide_eq_decide.mpr ⟨fun h e he hline => ?_, fun h e he => ?_⟩
  · refine h _ (List.mem_append_right _ (List.mem_map_of_mem he)) ?_
    simp only [Finding.moveMarker, Finding.moveDirective, hline]
  · rcases List.mem_append.mp he with he | he
    · obtain ⟨m, hm, rfl⟩ := List.mem_map.mp he
      have habove := le_of_mem_markerCandidates hm
      simp only [Finding.moveMarker, Finding.moveDirective]
      omega
    · obtain ⟨m, hm, rfl⟩ := List.mem_map.mp he
      have hne := h m hm
      simp only [Finding.moveMarker, Finding.moveDirective]
      omega

/-- A marker on what was the only line of its text, and a content with a marker and an
annotation. -/
theorem prepended_marker_and_annotation :
    (∀ c ∈ openers, c ∉ decode (encode "f(); // NOSONAR".toList)) ∧
    findingsOfBytes (encode "f(); // NOSONAR".toList ++
      0x0A :: encode "// nosonar\n@SuppressWarnings(\"java:S1234\")".toList) =
      [markerFinding 3 1, markerFinding 3 2,
       Family.annotationGeneric.finding 3 ⟨["java:S1234"], false⟩] := by
  have hfront : ∀ c ∈ openers, c ∉ decode (encode "f(); // NOSONAR".toList) :=
    forall_mem_of_all (by decide +kernel)
  exact ⟨hfront, (findings_prepend_text _ _ hfront).trans (by decide +kernel)⟩

end InlineAudit
