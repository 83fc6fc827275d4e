import InlineAudit.Detect.Findings
import InlineAudit.Proofs.Detect.Marker
import InlineAudit.Proofs.Detect.Shape
import Mathlib.Data.List.Basic
import Mathlib.Data.List.Induction
import Mathlib.Data.List.Nodup

/-!
Who owns a line. The passes share one ledger, but what comes out can be said without it: list the
accepted candidates pass by pass, each pass in the order of its text, and keep the first candidate
on every line. So no line with a candidate is lost, and the finding on a line is the earliest match
of the earliest pass that has one there. Candidates that a pass rejects claim nothing.
-/

namespace InlineAudit

open Detect Text

namespace Detect

/-- A family with the pattern of its shape. -/
structure Directive where
  family : Family
  pattern : Pattern

def directives : List Directive :=
  [⟨.annotationGeneric, genericPattern⟩, ⟨.annotationVariant, variantPattern⟩,
   ⟨.bracketAttribute, bracketPattern⟩, ⟨.angleAttribute, anglePattern⟩]

theorem families_eq_directives : families = directives.map (·.family) := rfl

theorem directive_seenBy : ∀ d ∈ directives, d.pattern.SeenBy d.family.shape := by
  simp only [directives, List.forall_mem_cons, List.not_mem_nil, false_implies, implies_true,
    and_true]
  exact ⟨generic_seenBy, variant_seenBy, bracket_seenBy, angle_seenBy⟩

theorem directive_category : ∀ d ∈ directives,
    d.family.category ∈ Category.all ∧ d.family.category ≠ .bareMarker := by
  simp only [directives, List.forall_mem_cons]
  decide

/-- The accepted matches of a directive, each on the line it starts on. -/
def Directive.candidates (d : Directive) (text : List Char) : List Finding :=
  (d.pattern.allMatches text).filterMap fun found =>
    (d.family.judge found.payload).map (d.family.finding (lineAt text found.start))

/-- The marker findings of lines that are numbered from `first` on. -/
def markersFrom (total first : Nat) (lines : List Bytes) : List Finding :=
  (lines.zipIdx first).filterMap fun (line, number) =>
    if MarkerMatches (decode (stripLiteralBytes line)) then some (markerFinding total number)
    else none

end Detect

/-- The passes over a content in their order: the category of each and its accepted candidates. -/
def passes (content : Bytes) : List (Category × List Finding) :=
  (.bareMarker, markersFrom (byteLines content).length 1 (byteLines content)) ::
    directives.map fun d => (d.family.category, d.candidates (decode content))

/-- All accepted candidates, pass by pass. -/
def candidates (content : Bytes) : List Finding := (passes content).flatMap (·.2)

/-- Keeps of every line the first candidate on it. -/
def firstOnLine (found : List Finding) : List Finding :=
  (found.zipIdx.filter fun (f, i) =>
    (found.take i).all fun earlier => earlier.evidenceLine ≠ f.evidenceLine).map (·.1)

namespace Detect

theorem firstOnLine_concat (found : List Finding) (f : Finding) :
    firstOnLine (found ++ [f]) = firstOnLine found ++
      if ∃ earlier ∈ found, earlier.evidenceLine = f.evidenceLine then [] else [f] := by
  have hinit : ∀ x ∈ found.zipIdx,
      ((found ++ [f]).take x.2).all (fun earlier => earlier.evidenceLine ≠ x.1.evidenceLine) =
        (found.take x.2).all (fun earlier => earlier.evidenceLine ≠ x.1.evidenceLine) := by
    intro x hx
    have hlt := (List.mem_zipIdx hx).2.1
    rw [List.take_append_of_le_length (by omega)]
  simp only [firstOnLine, List.zipIdx_append, List.filter_append, List.map_append,
    List.filter_congr hinit]
  congr 1
  simp only [List.zipIdx_cons, List.zipIdx_nil, Nat.zero_add, List.filter_cons, List.filter_nil,
    List.take_left]
  by_cases h : ∃ earlier ∈ found, earlier.evidenceLine = f.evidenceLine
  · have hall : (found.all fun earlier => earlier.evidenceLine ≠ f.evidenceLine) = false := by
      simpa [List.all_eq_false] using h
    simp only [hall, if_pos h, Bool.false_eq_true, if_false, List.map_nil]
  · have hall : (found.all fun earlier => earlier.evidenceLine ≠ f.evidenceLine) = true := by
      simpa using h
    simp only [hall, if_neg h, if_true, List.map_cons, List.map_nil]

theorem firstOnLine_sublist (found : List Finding) : (firstOnLine found).Sublist found := by
  have hsub := (List.filter_sublist (p := fun x : Finding × Nat =>
    (found.take x.2).all fun earlier => earlier.evidenceLine ≠ x.1.evidenceLine)
      (l := found.zipIdx)).map (·.1)
  rwa [List.zipIdx_map_fst] at hsub

/-- A ledger after some candidates were offered to it: their lines are claimed, and it holds the
first candidate on each of them. -/
structure Ledger.Records (ledger : Ledger) (offered : List Finding) : Prop where
  claimed_iff : ∀ line, line ∈ ledger.claimed ↔ ∃ f ∈ offered, f.evidenceLine = line
  findings_eq : ledger.findings = firstOnLine offered

theorem Ledger.records_empty : Ledger.Records {} [] where
  claimed_iff line := by simp
  findings_eq := rfl

theorem Ledger.Records.enter {ledger : Ledger} {offered : List Finding}
    (h : ledger.Records offered) (f : Finding) : (ledger.enter f).Records (offered ++ [f]) := by
  have hclaimed := h.claimed_iff f.evidenceLine
  rw [Ledger.enter]
  split
  · rename_i htaken
    have howner := hclaimed.mp htaken
    constructor
    · intro line
      rw [h.claimed_iff]
      grind
    · rw [firstOnLine_concat, if_pos howner, List.append_nil, h.findings_eq]
  · rename_i hfree
    have hnone := fun howner => hfree (hclaimed.mpr howner)
    constructor
    · intro line
      rw [List.mem_cons, h.claimed_iff]
      grind
    · rw [firstOnLine_concat, if_neg hnone, h.findings_eq]

theorem Ledger.Records.enterAll {ledger : Ledger} {offered : List Finding}
    (h : ledger.Records offered) (more : List Finding) :
    (more.foldl Ledger.enter ledger).Records (offered ++ more) := by
  induction more generalizing ledger offered with
  | nil => simpa using h
  | cons f more ih => simpa using ih (h.enter f)

theorem mem_markersFrom_iff {total first : Nat} {lines : List Bytes} {f : Finding} :
    f ∈ markersFrom total first lines ↔ ∃ i line, lines[i]? = some line ∧
      MarkerMatches (decode (stripLiteralBytes line)) ∧ f = markerFinding total (first + i) := by
  simp only [markersFrom, List.mem_filterMap, Option.ite_none_right_eq_some, Option.some.injEq]
  constructor
  · rintro ⟨⟨line, number⟩, hline, hmatches, rfl⟩
    obtain ⟨hle, hat⟩ := List.mk_mem_zipIdx_iff_le_and_getElem?_sub.mp hline
    exact ⟨number - first, line, hat, hmatches, by rw [Nat.add_sub_cancel' hle]⟩
  · rintro ⟨i, line, hat, hmatches, rfl⟩
    refine ⟨(line, first + i), ?_, hmatches, rfl⟩
    rw [List.mk_mem_zipIdx_iff_le_and_getElem?_sub]
    exact ⟨Nat.le_add_right .., by rwa [Nat.add_sub_cancel_left]⟩

theorem Directive.mem_candidates_iff {d : Directive} {text : List Char} {f : Finding} :
    f ∈ d.candidates text ↔ ∃ found ∈ d.pattern.allMatches text, ∃ verdict,
      d.family.judge found.payload = some verdict ∧
        f = d.family.finding (lineAt text found.start) verdict := by
  simp only [Directive.candidates, List.mem_filterMap, Option.map_eq_some_iff,
    @eq_comm _ _ f]

theorem markersFrom_cons (total first : Nat) (line : Bytes) (lines : List Bytes) :
    markersFrom total first (line :: lines) =
      (if MarkerMatches (decode (stripLiteralBytes line)) then [markerFinding total first] else [])
        ++ markersFrom total (first + 1) lines := by
  rw [markersFrom, List.zipIdx_cons, List.filterMap_cons]
  split
  · rename_i hnone
    rw [if_neg (by simpa using hnone)]
    rfl
  · rename_i f hsome
    obtain ⟨hmatches, rfl⟩ : MarkerMatches (decode (stripLiteralBytes line)) ∧
        markerFinding total first = f := by simpa using hsome
    rw [if_pos hmatches]
    rfl

theorem isMarkerLine_iff {line : Bytes} :
    isMarkerLine line = true ↔ MarkerMatches (decode (stripLiteralBytes line)) := by
  rw [isMarkerLine, seen_markerWord, markerMatches_iff]

/-- Entering marker lines is offering their findings one by one. -/
theorem enterMarkers_eq_foldl (total first : Nat) (lines : List Bytes) (ledger : Ledger) :
    enterMarkers total first lines ledger =
      (markersFrom total first lines).foldl Ledger.enter ledger := by
  induction lines generalizing first ledger with
  | nil => rfl
  | cons line lines ih =>
      rw [enterMarkers, ih, ih, markersFrom_cons, List.foldl_append]
      by_cases h : MarkerMatches (decode (stripLiteralBytes line))
      · rw [if_pos (isMarkerLine_iff.mpr h), if_pos h]
        rfl
      · rw [if_neg (mt isMarkerLine_iff.mp h), if_neg h]
        rfl

theorem Directive.enterAll_eq_foldl {d : Directive} (hd : d ∈ directives) (text : List Char)
    (ledger : Ledger) :
    d.family.enterAll text ledger = (d.candidates text).foldl Ledger.enter ledger := by
  rw [Family.enterAll, (directive_seenBy d hd).sights_eq, Directive.candidates, List.foldl_map,
    List.foldl_filterMap]
  congr 1
  funext ledger found
  rw [Family.enterSight]
  cases d.family.judge found.payload <;> rfl

end Detect

/-- The ledger of all passes is the ledger of their candidates. -/
theorem findingsOfBytes_eq_foldl (content : Bytes) :
    findingsOfBytes content = ((candidates content).foldl Ledger.enter {}).findings := by
  rw [candidates, List.foldl_flatMap, passes, List.foldl_cons, List.foldl_map, findingsOfBytes,
    families_eq_directives, List.foldl_map, enterMarkers_eq_foldl]
  congr 1
  apply List.foldl_ext
  intro ledger d hd
  exact Directive.enterAll_eq_foldl hd (decode content) ledger

theorem findingsOfBytes_eq_firstOnLine (content : Bytes) :
    findingsOfBytes content = firstOnLine (candidates content) := by
  have hrecords := Ledger.records_empty.enterAll (candidates content)
  rw [List.nil_append] at hrecords
  rw [findingsOfBytes_eq_foldl, hrecords.findings_eq]

/-- What is kept is the first candidate on its line. -/
theorem mem_firstOnLine_iff {found : List Finding} {f : Finding} :
    f ∈ firstOnLine found ↔
      found.find? (fun c => c.evidenceLine = f.evidenceLine) = some f := by
  induction found using List.reverseRecOn with
  | nil => simp [firstOnLine]
  | append_singleton found g ih =>
      rw [firstOnLine_concat, List.mem_append, ih, List.find?_append]
      -- the last candidate is found just if no earlier one is on its line
      cases hfirst : found.find? fun c => c.evidenceLine = f.evidenceLine with
      | some first =>
          have hline : first.evidenceLine = f.evidenceLine := by simpa using List.find?_some hfirst
          have hmem := List.mem_of_find?_eq_some hfirst
          constructor
          · rintro (h | h)
            · exact h
            · split at h
              · cases h
              · rename_i hfree
                obtain rfl := List.mem_singleton.mp h
                exact absurd ⟨first, hmem, hline⟩ hfree
          · exact Or.inl
      | none =>
          have hfree : ¬∃ earlier ∈ found, earlier.evidenceLine = f.evidenceLine := by
            simpa using List.find?_eq_none.mp hfirst
          constructor
          · rintro (h | h)
            · cases h
            · split at h
              · cases h
              · obtain rfl := List.mem_singleton.mp h
                simp
          · intro h
            rw [Option.none_or] at h
            obtain rfl := List.mem_singleton.mp (List.mem_of_find?_eq_some h)
            exact Or.inr (by simp [hfree])

/-- No line is lost. -/
theorem exists_mem_firstOnLine_iff {found : List Finding} {line : Int} :
    (∃ f ∈ firstOnLine found, f.evidenceLine = line) ↔ ∃ c ∈ found, c.evidenceLine = line := by
  constructor
  · rintro ⟨f, hf, rfl⟩
    exact ⟨f, (firstOnLine_sublist found).mem hf, rfl⟩
  · rintro ⟨c, hc, rfl⟩
    cases hfirst : found.find? fun d => d.evidenceLine = c.evidenceLine with
    | none => exact absurd (List.find?_eq_none.mp hfirst c hc) (by simp)
    | some f =>
        have hline : f.evidenceLine = c.evidenceLine := by simpa using List.find?_some hfirst
        refine ⟨f, mem_firstOnLine_iff.mpr ?_, hline⟩
        rw [hline]
        exact hfirst

theorem mem_candidates_iff {content : Bytes} {c : Finding} :
    c ∈ candidates content ↔ ∃ pass ∈ passes content, c ∈ pass.2 := List.mem_flatMap

/-- An accepted match is never passed over in silence: its line has a finding. -/
theorem exists_finding_of_match {content : Bytes} {d : Directive} (hd : d ∈ directives)
    {found : Match} (hfound : found ∈ d.pattern.allMatches (decode content))
    (haccept : d.family.judge found.payload ≠ none) :
    ∃ f ∈ findingsOfBytes content, f.evidenceLine = lineAt (decode content) found.start := by
  obtain ⟨verdict, hverdict⟩ := Option.ne_none_iff_exists'.mp haccept
  have hcandidate := Directive.mem_candidates_iff.mpr ⟨found, hfound, verdict, hverdict, rfl⟩
  have hpass : (d.family.category, d.candidates (decode content)) ∈ passes content :=
    List.mem_cons_of_mem _ (List.mem_map.mpr ⟨d, hd, rfl⟩)
  rw [findingsOfBytes_eq_firstOnLine, exists_mem_firstOnLine_iff]
  exact ⟨_, mem_candidates_iff.mpr ⟨_, hpass, hcandidate⟩, rfl⟩

theorem mem_passes_category {content : Bytes} {pass : Category × List Finding}
    (h : pass ∈ passes content) {f : Finding} (hf : f ∈ pass.2) : f.category = pass.1 := by
  rcases List.mem_cons.mp h with rfl | h
  · obtain ⟨_, _, _, _, rfl⟩ := mem_markersFrom_iff.mp hf
    rfl
  · obtain ⟨d, -, rfl⟩ := List.mem_map.mp h
    obtain ⟨_, _, _, _, rfl⟩ := Directive.mem_candidates_iff.mp hf
    rfl

/-- The category of a finding tells the pass it comes from. -/
theorem mem_candidates_of_category {content : Bytes} {d : Directive} (hd : d ∈ directives)
    {f : Finding} (hf : f ∈ findingsOfBytes content) (hcategory : f.category = d.family.category) :
    f ∈ d.candidates (decode content) := by
  have hdistinct : (directives.map (·.family.category)).Nodup := by decide
  rw [findingsOfBytes_eq_firstOnLine] at hf
  obtain ⟨pass, hpass, hf⟩ := mem_candidates_iff.mp ((firstOnLine_sublist _).mem hf)
  have hsame := hcategory.symm.trans (mem_passes_category hpass hf)
  rcases List.mem_cons.mp hpass with rfl | hpass
  · exact absurd hsame (directive_category d hd).2
  · obtain ⟨other, hother, rfl⟩ := List.mem_map.mp hpass
    obtain rfl := List.inj_on_of_nodup_map hdistinct hd hother hsame
    exact hf

/-- The finding of a line comes from the first pass that has a candidate there. -/
theorem exists_finding_of_first_pass {content : Bytes}
    {earlier later : List (Category × List Finding)}
    {pass : Category × List Finding} (hsplit : passes content = earlier ++ pass :: later)
    {c : Finding} (hc : c ∈ pass.2)
    (hearlier : ∀ p ∈ earlier, ∀ other ∈ p.2, other.evidenceLine ≠ c.evidenceLine) :
    ∃ f ∈ findingsOfBytes content, f ∈ pass.2 ∧ f.evidenceLine = c.evidenceLine := by
  have hmem : c ∈ candidates content :=
    mem_candidates_iff.mpr ⟨pass, by rw [hsplit]; simp, hc⟩
  rw [findingsOfBytes_eq_firstOnLine]
  obtain ⟨f, hf, hline⟩ := exists_mem_firstOnLine_iff.mpr ⟨c, hmem, rfl⟩
  refine ⟨f, hf, ?_, hline⟩
  have hfirst := mem_firstOnLine_iff.mp hf
  rw [candidates, hsplit, List.find?_flatMap, List.findSome?_append] at hfirst
  have hnone : (earlier.findSome? fun p =>
      p.2.find? fun other => other.evidenceLine = f.evidenceLine) = none := by
    simp only [List.findSome?_eq_none_iff, List.find?_eq_none, decide_eq_true_eq, hline]
    exact hearlier
  obtain ⟨g, hg⟩ : ∃ g, pass.2.find? (fun other => other.evidenceLine = f.evidenceLine) = some g :=
    Option.isSome_iff_exists.mp (List.find?_isSome.mpr ⟨c, hc, by simp [hline]⟩)
  rw [hnone, Option.none_or, List.findSome?_cons, hg] at hfirst
  exact Option.some.inj hfirst ▸ List.mem_of_find?_eq_some hg

/-- The ledger loses nothing and picks the right owner: what is found are the accepted candidates,
pass by pass, of which each line keeps the first. A line has a finding just if some pass has a
candidate on it; the finding is of the earliest such pass, and the earliest of that pass there. -/
theorem findings_are_first_candidates (content : Bytes) :
    findingsOfBytes content = firstOnLine (candidates content) ∧
    (∀ line : Int, (∃ f ∈ findingsOfBytes content, f.evidenceLine = line) ↔
      ∃ pass ∈ passes content, ∃ c ∈ pass.2, c.evidenceLine = line) ∧
    ∀ f ∈ findingsOfBytes content, ∃ earlier pass later,
      passes content = earlier ++ pass :: later ∧ f.category = pass.1 ∧
      (∀ p ∈ earlier, ∀ c ∈ p.2, c.evidenceLine ≠ f.evidenceLine) ∧
      pass.2.find? (fun c => c.evidenceLine = f.evidenceLine) = some f := by
  have heq := findingsOfBytes_eq_firstOnLine content
  refine ⟨heq, ?_, ?_⟩
  -- a line keeps a finding just if it has a candidate
  · intro line
    rw [heq, exists_mem_firstOnLine_iff]
    constructor
    · rintro ⟨c, hc, hline⟩
      obtain ⟨pass, hpass, hc⟩ := mem_candidates_iff.mp hc
      exact ⟨pass, hpass, c, hc, hline⟩
    · rintro ⟨pass, hpass, c, hc, hline⟩
      exact ⟨c, mem_candidates_iff.mpr ⟨pass, hpass, hc⟩, hline⟩
  -- the first candidate of all passes is the first one of the first pass that has any
  · intro f hf
    rw [heq, mem_firstOnLine_iff, candidates, List.find?_flatMap] at hf
    obtain ⟨earlier, pass, later, hsplit, hfound, hearlier⟩ := List.findSome?_eq_some_iff.mp hf
    refine ⟨earlier, pass, later, hsplit, ?_, ?_, hfound⟩
    · have hpass : pass ∈ passes content := by rw [hsplit]; simp
      exact mem_passes_category hpass (List.mem_of_find?_eq_some hfound)
    · intro p hp c hc
      simpa using List.find?_eq_none.mp (hearlier p hp) c hc

end InlineAudit
