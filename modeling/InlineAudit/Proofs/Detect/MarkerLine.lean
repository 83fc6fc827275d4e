import InlineAudit.Proofs.Detect.Literal
import InlineAudit.Proofs.Detect.Prepending

/-!
Which lines are marker lines. Markers are searched in the stripped line, and stripping neither
makes nor breaks one: the letters of a marker are no quotes and no blanks, so a marker of the
stripped line lies outside the literals, and around a marker outside the literals the stripped line
is the line itself. Where a text is put together from parts, the parts are searched on their own if
the character between them belongs to no word.
-/

namespace InlineAudit

open Detect Text

namespace Detect

theorem decode_stripLiteralBytes (line : Bytes) :
    decode (stripLiteralBytes line) = stripLiterals (decode line) := by
  rw [stripLiteralBytes]
  split
  · rw [decode_encode]
  · rename_i hnone
    rw [stripLiterals_of_no_literal (by simpa using hnone)]

theorem MarkerLetters.congr {text other : List Char} {offset : Nat}
    (h : MarkerLetters text offset) (heq : ∀ i < 7, text[offset + i]? = other[offset + i]?) :
    MarkerLetters other offset := by
  have htake : (text.drop offset).take 7 = (other.drop offset).take 7 := by
    apply List.ext_getElem?
    intro i
    simp only [List.getElem?_take, List.getElem?_drop]
    split
    · exact heq i ‹_›
    · rfl
  rw [MarkerLetters, marker_length] at h ⊢
  rw [← htake]
  exact h

theorem MarkerAt.congr {text other : List Char} {offset : Nat} (h : MarkerAt text offset)
    (heq : ∀ i, offset ≤ i + 1 → i ≤ offset + 7 → text[i]? = other[i]?) :
    MarkerAt other offset where
  letters := h.letters.congr fun i hi => heq (offset + i) (by omega) (by omega)
  before := by
    have hbefore := h.before
    cases offset with
    | zero => exact hbefore
    | succ offset => rwa [charBefore_succ, ← heq offset (by omega) (by omega)]
  after := by
    have hafter := h.after
    rw [marker_length] at hafter ⊢
    rwa [← heq _ (by omega) (by omega)]

/-! ### Across a character of no word -/

theorem markerAt_iff_of_same {text other : List Char} {offset offset' : Nat}
    (hletters : (text.drop offset).take 7 = (other.drop offset').take 7)
    (hbefore : neighbourIsWord (charBefore text offset) =
      neighbourIsWord (charBefore other offset'))
    (hafter : neighbourIsWord text[offset + 7]? = neighbourIsWord other[offset' + 7]?) :
    MarkerAt text offset ↔ MarkerAt other offset' := by
  have hsame : MarkerLetters text offset ↔ MarkerLetters other offset' := by
    rw [MarkerLetters, MarkerLetters, marker_length, hletters]
  constructor
  · rintro ⟨h, hfirst, hlast⟩
    exact ⟨hsame.mp h, hbefore ▸ hfirst, hafter ▸ hlast⟩
  · rintro ⟨h, hfirst, hlast⟩
    exact ⟨hsame.mpr h, hbefore ▸ hfirst, hafter ▸ hlast⟩

theorem drop_behind (left : List Char) (c : Char) (right : List Char) (i : Nat) :
    (left ++ c :: right).drop (left.length + 1 + i) = right.drop i := by
  rw [Nat.add_assoc, Nat.add_comm 1, List.drop_length_add_append, List.drop_succ_cons]

theorem getElem?_behind (left : List Char) (c : Char) (right : List Char) (i : Nat) :
    (left ++ c :: right)[left.length + 1 + i]? = right[i]? := by
  rw [← List.head?_drop, drop_behind, List.head?_drop]

section Across

variable {left right : List Char} {c : Char} (hc : isWord c = false)

include hc

/-- To the letters before it, such a character is like the end of the text. -/
theorem markerAt_before_iff {offset : Nat} (hfits : offset + 7 ≤ left.length) :
    MarkerAt (left ++ c :: right) offset ↔ MarkerAt left offset := by
  have hsame : ∀ i < left.length, (left ++ c :: right)[i]? = left[i]? :=
    fun i hi => List.getElem?_append_left hi
  refine markerAt_iff_of_same ?_ ?_ ?_
  · rw [List.drop_append_of_le_length (by omega), List.take_append_of_le_length]
    rw [List.length_drop]
    omega
  · cases offset with
    | zero => rfl
    | succ offset => rw [charBefore_succ, charBefore_succ, hsame offset (by omega)]
  · rcases Nat.lt_or_eq_of_le hfits with hlt | heq
    · rw [hsame _ hlt]
    · rw [heq, List.getElem?_append_right (Nat.le_refl _), Nat.sub_self,
        List.getElem?_eq_none (Nat.le_refl _)]
      exact hc

/-- And to the letters behind it like the start. -/
theorem markerAt_behind_iff {offset : Nat} :
    MarkerAt (left ++ c :: right) (left.length + 1 + offset) ↔ MarkerAt right offset := by
  refine markerAt_iff_of_same ?_ ?_ ?_
  · rw [drop_behind]
  · cases offset with
    | zero => simpa [neighbourIsWord] using hc
    | succ offset => rw [← Nat.add_assoc, charBefore_succ, charBefore_succ, getElem?_behind]
  · rw [Nat.add_assoc, getElem?_behind]

/-- No marker lies across a character that is no word character. -/
theorem exists_markerAt_append_iff :
    (∃ offset, MarkerAt (left ++ c :: right) offset) ↔
      (∃ offset, MarkerAt left offset) ∨ ∃ offset, MarkerAt right offset := by
  constructor
  · rintro ⟨offset, h⟩
    by_cases hend : offset + 7 ≤ left.length
    · exact Or.inl ⟨offset, (markerAt_before_iff hc hend).mp h⟩
    by_cases hstart : left.length < offset
    · obtain ⟨i, rfl⟩ : ∃ i, offset = left.length + 1 + i := ⟨offset - left.length - 1, by omega⟩
      exact Or.inr ⟨i, (markerAt_behind_iff hc).mp h⟩
    · -- `c` would be one of the letters
      have hword := h.letters.isWord (i := left.length - offset) (by omega)
      rw [show offset + (left.length - offset) = left.length by omega,
        List.getElem?_append_right (Nat.le_refl _), Nat.sub_self] at hword
      exact absurd hword (by simp [neighbourIsWord, hc])
  · rintro (⟨offset, h⟩ | ⟨offset, h⟩)
    · exact ⟨offset, (markerAt_before_iff hc h.letters.fits).mpr h⟩
    · exact ⟨_, (markerAt_behind_iff hc).mpr h⟩

end Across

theorem not_exists_markerAt_nil : ¬∃ offset, MarkerAt [] offset := by
  rintro ⟨offset, h⟩
  exact absurd h.letters.lt_length (Nat.not_lt_zero _)

/-! ### Markers of a stripped text -/

theorem neighbourIsWord_quote {mark : Char} (h : mark = '"' ∨ mark = '\'') :
    neighbourIsWord (some mark) = false := by
  rcases h with rfl | rfl <;> decide

theorem neighbourIsWord_blank : neighbourIsWord (some ' ') = false := by decide

/-- Around a marker outside the literals nothing is blanked: a literal next to it would have a
quote among the letters. -/
theorem Outside.strip_around {text : List Char} {offset : Nat} (hout : Outside text offset)
    (hletters : MarkerLetters text offset) {i : Nat} (hfrom : offset ≤ i + 1)
    (hto : i ≤ offset + 7) : (stripLiterals text)[i]? = text[i]? := by
  rcases stripLiterals_cases text i with heq | ⟨-, start, stop, hliteral, hstart, hstop⟩
  · exact heq
  · exfalso
    by_cases hle : start ≤ offset
    · exact hout start stop hliteral ⟨hle, by omega⟩
    · -- the literal starts among the letters, which are word characters and no quotes
      obtain ⟨mark, hmark, htext, -⟩ := hliteral.strip_marks (Or.inl rfl)
      have hword := hletters.isWord (i := start - offset) (by omega)
      rw [show offset + (start - offset) = start by omega, htext,
        neighbourIsWord_quote hmark] at hword
      cases hword

/-- The letters of a marker in the stripped text are letters of the text outside its literals. -/
theorem MarkerLetters.of_strip {text : List Char} {offset : Nat}
    (h : MarkerLetters (stripLiterals text) offset) :
    Outside text offset ∧ MarkerLetters text offset := by
  have hblank : ∀ i < 7, (stripLiterals text)[offset + i]? ≠ some ' ' := by
    intro i hi hget
    have hword := h.isWord hi
    rw [hget, neighbourIsWord_blank] at hword
    cases hword
  constructor
  · rintro start stop hliteral ⟨hstart, hstop⟩
    by_cases hend : offset = start ∨ offset = stop
    · obtain ⟨mark, hmark, -, hstrip⟩ := hliteral.strip_marks hend
      have hword : neighbourIsWord (stripLiterals text)[offset]? = true :=
        h.isWord (i := 0) (by omega)
      rw [hstrip, neighbourIsWord_quote hmark] at hword
      cases hword
    · exact hblank 0 (by omega) (hliteral.strip_inside (by omega) (by omega))
  · refine h.congr fun i hi => ?_
    rcases stripLiterals_cases text (offset + i) with heq | ⟨hget, -⟩
    · exact heq
    · exact absurd hget (hblank i hi)

theorem markerAt_stripLiterals_iff {text : List Char} {offset : Nat} :
    MarkerAt (stripLiterals text) offset ↔ Outside text offset ∧ MarkerAt text offset := by
  constructor
  · intro h
    obtain ⟨hout, hletters⟩ := h.letters.of_strip
    exact ⟨hout, h.congr fun i hfrom hto => hout.strip_around hletters hfrom hto⟩
  · rintro ⟨hout, h⟩
    exact h.congr fun i hfrom hto => (hout.strip_around h.letters hfrom hto).symm

end Detect

/-- A line has a marker finding. -/
def MarkerFound (content : Bytes) (line : Int) : Prop :=
  ∃ f ∈ findingsOfBytes content, f.category = .bareMarker ∧ f.evidenceLine = line

instance (content : Bytes) (line : Int) : Decidable (MarkerFound content line) :=
  inferInstanceAs (Decidable (∃ _ ∈ _, _))

/-- The number of a marker finding tells its line. -/
theorem markerFound_iff {content : Bytes} {i : Nat} {line : Bytes}
    (hline : (byteLines content)[i]? = some line) :
    MarkerFound content (i + 1 : Nat) ↔ isMarkerLine line = true := by
  rw [isMarkerLine_iff]
  constructor
  · rintro ⟨f, hf, hcategory, hnumber⟩
    obtain ⟨j, other, hother, hmarker, rfl⟩ :=
      mem_markersFrom_iff.mp (mem_markerCandidates_iff.mpr ⟨hf, hcategory⟩)
    obtain rfl : j = i := by
      have : 1 + j = i + 1 := Int.ofNat_inj.mp hnumber
      omega
    obtain rfl : other = line := Option.some.inj (hother.symm.trans hline)
    exact hmarker
  · intro hmarker
    obtain ⟨hf, hcategory⟩ := mem_markerCandidates_iff.mp
      (mem_markersFrom_iff.mpr ⟨i, line, hline, hmarker, rfl⟩)
    exact ⟨_, hf, hcategory, Int.ofNat_inj.mpr (Nat.add_comm 1 i)⟩

/-- Marker detection is exact: a line has a marker finding just if the marker stands on it outside
its string literals, as a word of the line itself. A line has no line feed, so that on it a
backslash escapes whatever follows. -/
theorem marker_lines_exact (content : Bytes) (i : Nat) (line : Bytes)
    (hline : (byteLines content)[i]? = some line) :
    '\n' ∉ decode line ∧
    ((∃ f ∈ findingsOfBytes content, f.category = .bareMarker ∧ f.evidenceLine = (i + 1 : Nat)) ↔
      ∃ offset, Outside (decode line) offset ∧ MarkerAt (decode line) offset) := by
  constructor
  · have hfeed : 0x0A ∉ line := not_mem_of_mem_splitAt (List.mem_of_getElem? hline)
    rw [← List.count_eq_zero, count_lineFeed_decode, List.count_eq_zero]
    exact hfeed
  · rw [← MarkerFound, markerFound_iff hline, isMarkerLine_iff, markerMatches_iff,
      decode_stripLiteralBytes]
    simp only [markerAt_stripLiterals_iff]

/-- A marker behind a literal that names it and an apostrophe that opens nothing. -/
theorem marker_behind_literal_exact :
    (byteLines (encode "x\n\"NOSONAR\" it's noSonar".toList))[1]? =
      some (encode "\"NOSONAR\" it's noSonar".toList) ∧
    ∃ offset, Outside "\"NOSONAR\" it's noSonar".toList offset ∧
      MarkerAt "\"NOSONAR\" it's noSonar".toList offset := by
  have hline : (byteLines (encode "x\n\"NOSONAR\" it's noSonar".toList))[1]? =
      some (encode "\"NOSONAR\" it's noSonar".toList) := by decide +kernel
  refine ⟨hline, ?_⟩
  have hexact := (marker_lines_exact _ 1 _ hline).2
  rw [decode_encode] at hexact
  exact hexact.mp (by decide +kernel)

end InlineAudit
