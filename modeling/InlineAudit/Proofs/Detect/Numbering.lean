import InlineAudit.Detect.Findings
import InlineAudit.Proofs.Text.Lines
import InlineAudit.Proofs.Text.Utf8

/-!
The two ways of numbering lines. Markers number the pieces between the line feeds of the bytes,
directives count the line feeds of the text before an offset. No character reaches across a line
feed, so bytes may be cut into lines before they are decoded, whatever stray bytes a line ends
with; the piece that holds a character then has the number that is counted for its offset.
-/

namespace InlineAudit

open Text

theorem length_byteLines (content : Bytes) :
    (byteLines content).length = 1 + content.count 0x0A := length_splitAt 0x0A content

theorem byteLines_of_not_mem {line : Bytes} (h : 0x0A ∉ line) : byteLines line = [line] :=
  splitAt_of_not_mem h

theorem byteLines_append (front back : Bytes) :
    byteLines (front ++ 0x0A :: back) = byteLines front ++ byteLines back :=
  splitAt_append 0x0A front back

theorem decode_lineFeed_append (front back : Bytes) :
    decode (front ++ 0x0A :: back) = (decode front ++ ['\n']) ++ decode back := by
  have hfeed : decode (0x0A :: back) = '\n' :: decode back := decode_encode_append ['\n'] back
  rw [decode_append (by decide), hfeed, List.append_assoc, List.singleton_append]

theorem lines_ended {piece : List Char} (h : '\n' ∉ piece) (rest : List Char) :
    lines (piece ++ '\n' :: rest) = piece :: lines rest := by
  rw [lines, splitAt_append, splitAt_of_not_mem h]
  rfl

/-- Cutting bytes into lines and decoding them may be done in either order. -/
theorem lines_decode (content : Bytes) :
    lines (decode content) = (byteLines content).map decode := by
  induction content using piece_induction (0x0A : UInt8) with
  | last line hline =>
      have hfeed := lineFeed_not_mem_decode hline
      rw [lines, splitAt_of_not_mem hfeed, byteLines_of_not_mem hline]
      rfl
  | ended line rest hline ih =>
      have hfeed := lineFeed_not_mem_decode hline
      rw [decode_lineFeed_append, List.append_assoc, List.singleton_append, lines_ended hfeed, ih,
        byteLines_append, byteLines_of_not_mem hline]
      rfl

/-- What stands before the piece with an index, if a line feed ends every piece before it. -/
def textBefore (pieces : List (List Char)) (index : Nat) : List Char :=
  (pieces.take index).flatMap (· ++ ['\n'])

/-- The piece with an index holds an offset of the pieces joined again. A line feed belongs to the
piece that it ends. -/
def Holds (pieces : List (List Char)) (index offset : Nat) : Prop :=
  ∃ piece, pieces[index]? = some piece ∧ (textBefore pieces index).length ≤ offset ∧
    offset ≤ (textBefore pieces index).length + piece.length

theorem textBefore_zero (pieces : List (List Char)) : textBefore pieces 0 = [] := rfl

theorem textBefore_succ (piece : List Char) (pieces : List (List Char)) (index : Nat) :
    textBefore (piece :: pieces) (index + 1) = piece ++ '\n' :: textBefore pieces index := by
  simp [textBefore]

theorem holds_zero_iff {piece : List Char} {pieces : List (List Char)} {offset : Nat} :
    Holds (piece :: pieces) 0 offset ↔ offset ≤ piece.length := by
  simp [Holds, textBefore_zero]

theorem holds_succ_iff {piece : List Char} {pieces : List (List Char)} {index offset : Nat} :
    Holds (piece :: pieces) (index + 1) offset ↔
      ∃ o, offset = piece.length + 1 + o ∧ Holds pieces index o := by
  simp only [Holds, textBefore_succ, List.getElem?_cons_succ, List.length_append, List.length_cons]
  constructor
  · rintro ⟨held, hheld, hfrom, hto⟩
    exact ⟨offset - (piece.length + 1), by omega, held, hheld, by omega, by omega⟩
  · rintro ⟨o, rfl, held, hheld, hfrom, hto⟩
    exact ⟨held, hheld, by omega, by omega⟩

/-- Up to the first line feed it is line one. -/
theorem lineAt_within {piece : List Char} (hpiece : '\n' ∉ piece) {offset : Nat}
    (h : offset ≤ piece.length) (rest : List Char) : lineAt (piece ++ rest) offset = 1 := by
  rw [lineAt, List.take_append_of_le_length h, List.count_eq_zero.mpr]
  exact fun hmem => hpiece (List.mem_of_mem_take hmem)

/-- Behind it the lines are those of what follows, and one more. -/
theorem lineAt_beyond {piece : List Char} (hpiece : '\n' ∉ piece) (rest : List Char)
    (offset : Nat) :
    lineAt (piece ++ '\n' :: rest) (piece.length + 1 + offset) = lineAt rest offset + 1 := by
  have hcount : (piece ++ ['\n']).count '\n' = 1 := by
    rw [List.count_append, List.count_eq_zero.mpr hpiece, List.count_singleton_self]
  have happend := lineAt_append (piece ++ ['\n']) rest offset
  rwa [hcount, List.length_append, List.length_singleton, List.append_assoc,
    List.singleton_append] at happend

/-- The index of the piece that holds an offset is the number of its line, counted from zero. -/
theorem holds_lines_iff {text : List Char} {index offset : Nat} (h : offset ≤ text.length) :
    Holds (lines text) index offset ↔ lineAt text offset = 1 + index := by
  induction text using piece_induction '\n' generalizing index offset with
  | last piece hpiece =>
      have hline := lineAt_within hpiece h []
      rw [List.append_nil] at hline
      rw [lines, splitAt_of_not_mem hpiece, hline]
      cases index with
      | zero => simpa [holds_zero_iff] using h
      | succ index =>
          rw [holds_succ_iff]
          constructor
          · rintro ⟨o, -, held, hheld, -⟩
            cases hheld
          · omega
  | ended piece rest hpiece ih =>
      rw [lines_ended hpiece]
      by_cases hin : offset ≤ piece.length
      · rw [lineAt_within hpiece hin]
        cases index with
        | zero => simpa [holds_zero_iff] using hin
        | succ index =>
            rw [holds_succ_iff]
            constructor
            · rintro ⟨o, rfl, -⟩
              omega
            · omega
      · obtain ⟨o, rfl⟩ : ∃ o, offset = piece.length + 1 + o :=
          ⟨offset - (piece.length + 1), by omega⟩
        have hrest : o ≤ rest.length := by
          rw [List.length_append, List.length_cons] at h
          omega
        rw [lineAt_beyond hpiece]
        cases index with
        | zero =>
            have hone := one_le_lineAt rest o
            rw [holds_zero_iff]
            omega
        | succ index =>
            have hsame : Holds (lines rest) index o ↔ lineAt rest o = 1 + index := ih hrest
            rw [holds_succ_iff]
            constructor
            · rintro ⟨o', ho, hholds⟩
              obtain rfl : o' = o := by omega
              have hnumber := hsame.mp hholds
              omega
            · intro hnumber
              exact ⟨o, rfl, hsame.mpr (by omega)⟩

/-- Every piece begins in the text. -/
theorem length_textBefore_le {text : List Char} {index : Nat} (h : index < (lines text).length) :
    (textBefore (lines text) index).length ≤ text.length := by
  induction text using piece_induction '\n' generalizing index with
  | last piece hpiece =>
      rw [lines, splitAt_of_not_mem hpiece, List.length_singleton] at h
      obtain rfl : index = 0 := by omega
      rw [textBefore_zero]
      exact Nat.zero_le _
  | ended piece rest hpiece ih =>
      rw [lines_ended hpiece, List.length_cons] at h
      rw [lines_ended hpiece]
      cases index with
      | zero => exact Nat.zero_le _
      | succ index =>
          have hle : (textBefore (lines rest) index).length ≤ rest.length := ih (by omega)
          simp only [textBefore_succ, List.length_append, List.length_cons]
          omega

theorem lineAt_succ_le (text : List Char) (offset : Nat) :
    lineAt text (offset + 1) ≤ lineAt text offset + 1 := by
  rw [lineAt, lineAt, List.take_add_one, List.count_append]
  have hone : text[offset]?.toList.count '\n' ≤ 1 := by
    cases text[offset]? with
    | none => simp
    | some c => exact List.count_le_length
  omega

/-- Every line is the line of an offset. -/
theorem exists_lineAt_eq_iff {text : List Char} {number : Nat} :
    (∃ offset ≤ text.length, lineAt text offset = number) ↔
      1 ≤ number ∧ number ≤ (lines text).length := by
  constructor
  · rintro ⟨offset, -, rfl⟩
    exact ⟨one_le_lineAt text offset, (length_splitAt '\n' text).symm ▸ lineAt_le text offset⟩
  · rintro ⟨hone, hle⟩
    obtain ⟨index, rfl⟩ : ∃ index, number = 1 + index := ⟨number - 1, by omega⟩
    -- a line begins at the first offset that its piece holds
    have hindex : index < (lines text).length := by omega
    have hstart := length_textBefore_le hindex
    refine ⟨_, hstart, (holds_lines_iff hstart).mp ?_⟩
    exact ⟨_, List.getElem?_eq_getElem hindex, Nat.le_refl _, Nat.le_add_right ..⟩

/-- The two line numberings agree. The lines of the bytes, decoded one by one and joined by line
feeds, are the decoded content, and the number that is counted for an offset is one more than the
index of the piece that holds it. Over all integers the numbers never fall and grow by one at most
from each to the next; offsets within the content have the numbers of its lines and no others. -/
theorem line_numberings_agree (content : Bytes) :
    (['\n'].intercalate ((byteLines content).map decode) = decode content ∧
      ∀ offset < (decode content).length, ∀ index,
        Holds ((byteLines content).map decode) index offset ↔
          lineAtInt (decode content) offset = 1 + index) ∧
    (∀ offset other : Int, offset ≤ other →
      lineAtInt (decode content) offset ≤ lineAtInt (decode content) other) ∧
    (∀ offset : Int,
      lineAtInt (decode content) (offset + 1) ≤ lineAtInt (decode content) offset + 1) ∧
    ∀ number, (∃ offset : Int, 0 ≤ offset ∧ offset ≤ (decode content).length ∧
        lineAtInt (decode content) offset = number) ↔
      1 ≤ number ∧ number ≤ (byteLines content).length := by
  have hlength : (byteLines content).length = (lines (decode content)).length := by
    rw [lines_decode, List.length_map]
  refine ⟨⟨?_, ?_⟩, ?_, ?_, ?_⟩
  · rw [← lines_decode]
    exact intercalate_splitAt '\n' (decode content)
  · intro offset hoffset index
    rw [← lines_decode]
    exact holds_lines_iff (Nat.le_of_lt hoffset)
  · intro offset other hle
    exact lineAt_mono (decode content) (Int.toNat_le_toNat hle)
  · intro offset
    rcases Int.lt_or_le offset 0 with hneg | hpos
    · -- both offsets are clamped to the start
      have hsame : (offset + 1).toNat = offset.toNat := by omega
      rw [lineAtInt, lineAtInt, hsame]
      exact Nat.le_succ _
    · have hnext : (offset + 1).toNat = offset.toNat + 1 := by omega
      rw [lineAtInt, lineAtInt, hnext]
      exact lineAt_succ_le (decode content) offset.toNat
  · intro number
    rw [hlength, ← exists_lineAt_eq_iff]
    constructor
    · rintro ⟨offset, hpos, hle, hnumber⟩
      exact ⟨offset.toNat, by omega, hnumber⟩
    · rintro ⟨offset, hle, hnumber⟩
      exact ⟨offset, Int.natCast_nonneg offset, Int.ofNat_le.mpr hle, hnumber⟩

/-- A line that breaks off within a character. -/
def brokenLine : Bytes := [0x61, 0xE2, 0x82, 0x0A, 0x62]

/-- Its two stray bytes and the line feed are on the first line. -/
theorem brokenLine_numbered :
    (4 < (decode brokenLine).length ∧ Holds ((byteLines brokenLine).map decode) 0 3 ∧
      Holds ((byteLines brokenLine).map decode) 1 4) ∧
    lineAtInt (decode brokenLine) (-1) ≤ lineAtInt (decode brokenLine) 4 := by
  obtain ⟨⟨-, hholds⟩, hmono, -⟩ := line_numberings_agree brokenLine
  refine ⟨⟨by decide, ?_, ?_⟩, hmono (-1) 4 (by decide)⟩
  · exact (hholds 3 (by decide) 0).mpr (by decide)
  · exact (hholds 4 (by decide) 1).mpr (by decide)

end InlineAudit
