import InlineAudit.Proofs.Detect.StrayBytes
import InlineAudit.Proofs.Detect.Stripping

/-!
Markers in line comments. A line is stripped as a whole and nothing in it is known to be a comment,
so apostrophes and quotes of a comment pair up like those of code and can hide a marker between
them. Behind code without quotes that is all that can happen: the slashes of the comment belong to
no word and no literal, the comment is stripped as if it stood alone, and a marker of it is found
unless the comment itself encloses it in quotes.
-/

namespace InlineAudit

open Detect Text

namespace Detect

/-- Stripping takes no notice of a front without quotes. -/
theorem stripLiterals_append_of_no_quote {front : List Char}
    (hfront : ∀ c ∈ front, isQuoteMark c = false) (text : List Char) :
    stripLiterals (front ++ text) = front ++ stripLiterals text := by
  induction front with
  | nil => rfl
  | cons c front ih =>
      obtain ⟨hc, hrest⟩ := List.forall_mem_cons.mp hfront
      have hnone : literalAt? (c :: (front ++ text)) = none := by simp [literalAt?, hc]
      rw [List.cons_append, stripLiterals, blankLiterals_plain hnone, List.cons_append]
      exact congrArg (c :: ·) (ih hrest)

/-- Quotes of one kind stand before a place and behind it. -/
def Enclosed (text : List Char) (position : Nat) : Prop :=
  ∃ mark, isQuoteMark mark = true ∧ mark ∈ text.take position ∧ mark ∈ text.drop position

/-- A marker in a literal has a quote on either side. -/
theorem MarkerAt.outside {text : List Char} {offset : Nat} (h : MarkerAt text offset)
    (hfree : ¬Enclosed text offset) : Outside text offset := by
  rintro start stop hliteral ⟨hstart, hstop⟩
  obtain ⟨mark, hmark, hfirst, hlast, -⟩ := hliteral.quoted.blankLiterals
  have hbefore : start < offset := by
    refine Nat.lt_of_le_of_ne hstart fun heq => ?_
    -- a quote is no letter of the marker
    have hword : neighbourIsWord text[offset]? = true := h.letters.isWord (i := 0) (by omega)
    rw [← heq, hfirst, neighbourIsWord_quote hmark] at hword
    cases hword
  refine hfree ⟨mark, isQuoteMark_iff.mpr hmark, ?_, ?_⟩
  · refine List.mem_of_getElem? (i := start) ?_
    rw [List.getElem?_take, if_pos hbefore, hfirst]
  · refine List.mem_of_getElem? (i := stop - offset) ?_
    rw [List.getElem?_drop, Nat.add_sub_cancel' hstop, hlast]

/-- A line with a comment behind code that has no quotes: the code and the comment are searched
each on its own, and the code as it is. -/
theorem isMarkerLine_comment_iff {line : Bytes} {code comment : List Char}
    (hline : decode line = code ++ '/' :: '/' :: comment)
    (hcode : ∀ c ∈ code, isQuoteMark c = false) :
    isMarkerLine line = true ↔
      (∃ offset, MarkerAt code offset) ∨
        ∃ offset, Outside comment offset ∧ MarkerAt comment offset := by
  have hslash : isWord '/' = false := by decide
  have hfront : ∀ c ∈ code ++ ['/', '/'], isQuoteMark c = false := by
    intro c hc
    rcases List.mem_append.mp hc with hc | hc
    · exact hcode c hc
    · have hslashes : ∀ c ∈ ['/', '/'], isQuoteMark c = false := forall_mem_of_all (by decide)
      exact hslashes c hc
  have hstrip :=
    calc stripLiterals (decode line)
      _ = stripLiterals ((code ++ ['/', '/']) ++ comment) := by
          rw [hline, List.append_assoc]
          rfl
      _ = (code ++ ['/', '/']) ++ stripLiterals comment :=
          stripLiterals_append_of_no_quote hfront comment
      _ = code ++ '/' :: ([] ++ '/' :: stripLiterals comment) := List.append_assoc ..
  rw [isMarkerLine_eq, seen_markerWord, hstrip, exists_markerAt_append_iff hslash,
    exists_markerAt_append_iff hslash, or_iff_right not_exists_markerAt_nil]
  simp only [markerAt_stripLiterals_iff]

end Detect

/-- Markers of a line comment behind code without quotes. The line has a marker finding just if a
marker stands in the code, or in the comment outside the literals that the comment has by itself.
So a marker of the comment is found unless quotes of one kind stand before and behind it there. -/
theorem comment_markers_exact (content : Bytes) (i : Nat) (line : Bytes)
    (code comment : List Char) (hline : (byteLines content)[i]? = some line)
    (hcomment : decode line = code ++ '/' :: '/' :: comment)
    (hcode : ∀ c ∈ code, isQuoteMark c = false) :
    (MarkerFound content (i + 1 : Nat) ↔
      (∃ offset, MarkerAt code offset) ∨
        ∃ offset, Outside comment offset ∧ MarkerAt comment offset) ∧
    ∀ offset, MarkerAt comment offset → ¬Enclosed comment offset →
      MarkerFound content (i + 1 : Nat) := by
  have hexact := (markerFound_iff hline).trans (isMarkerLine_comment_iff hcomment hcode)
  refine ⟨hexact, fun offset hat hfree => ?_⟩
  exact hexact.mpr (Or.inr ⟨offset, hat.outside hfree, hat⟩)

/-- A comment with an apostrophe and a quoted marker before a marker that counts. -/
theorem comment_marker_behind_apostrophe :
    (byteLines (encode "f();\ng(); // it's \"NOSONAR\", nosonar".toList))[1]? =
      some (encode "g(); // it's \"NOSONAR\", nosonar".toList) ∧
    (∀ c ∈ "g(); ".toList, isQuoteMark c = false) ∧
    MarkerAt " it's \"NOSONAR\", nosonar".toList 17 ∧
    ¬Enclosed " it's \"NOSONAR\", nosonar".toList 17 ∧
    MarkerFound (encode "f();\ng(); // it's \"NOSONAR\", nosonar".toList) 2 := by
  have hline : (byteLines (encode "f();\ng(); // it's \"NOSONAR\", nosonar".toList))[1]? =
      some (encode "g(); // it's \"NOSONAR\", nosonar".toList) := by decide +kernel
  have hcode : ∀ c ∈ "g(); ".toList, isQuoteMark c = false := forall_mem_of_all (by decide)
  have hat : MarkerAt " it's \"NOSONAR\", nosonar".toList 17 :=
    seenAt_markerWord.mp (by decide +kernel)
  have hfree : ¬Enclosed " it's \"NOSONAR\", nosonar".toList 17 := by
    rintro ⟨mark, hmark, -, hbehind⟩
    have hnone : ∀ c ∈ (" it's \"NOSONAR\", nosonar".toList).drop 17, isQuoteMark c = false :=
      forall_mem_of_all (by decide)
    rw [hnone mark hbehind] at hmark
    cases hmark
  refine ⟨hline, hcode, hat, hfree, ?_⟩
  refine (comment_markers_exact _ 1 _ "g(); ".toList _ hline ?_ hcode).2 17 hat hfree
  rw [decode_encode]
  rfl

/-- Two apostrophes of a comment hide the marker between them. -/
theorem apostrophes_hide_marker :
    (byteLines (encode "f(); // don't NOSONAR it's".toList))[0]? =
      some (encode "f(); // don't NOSONAR it's".toList) ∧
    "f(); // don't NOSONAR it's".toList =
      "f(); ".toList ++ '/' :: '/' :: " don't NOSONAR it's".toList ∧
    (∀ c ∈ "f(); ".toList, isQuoteMark c = false ∧ c ≠ '/') ∧
    MarkerAt " don't NOSONAR it's".toList 7 ∧
    ¬MarkerFound (encode "f(); // don't NOSONAR it's".toList) 1 := by
  refine ⟨by decide +kernel, rfl, forall_mem_of_all (by decide), ?_, by decide +kernel⟩
  exact seenAt_markerWord.mp (by decide +kernel)

end InlineAudit
