import InlineAudit.Proofs.Text.Blank
import InlineAudit.Proofs.Text.Lines
import InlineAudit.Proofs.Text.Utf8

/-!
Line feeds with a carriage return before them. Putting the returns in is the same for bytes and for
their text, adds one character for each line and none to the numbers of the lines. Readers that
skip white space, look for words or cut at a sign go on at the same place with them as without.
-/

namespace InlineAudit.Text

/-- A list with `mark` put before every element equal to `sep`. -/
def putBefore {α : Type} [DecidableEq α] (mark sep : α) (l : List α) : List α :=
  l.flatMap fun a => if a = sep then [mark, sep] else [a]

section PutBefore

variable {α : Type} [DecidableEq α] {mark sep : α}

@[simp] theorem putBefore_nil : putBefore mark sep [] = [] := rfl

@[simp] theorem putBefore_cons_self (l : List α) :
    putBefore mark sep (sep :: l) = mark :: sep :: putBefore mark sep l := by
  simp [putBefore]

theorem putBefore_cons_of_ne {a : α} (h : a ≠ sep) (l : List α) :
    putBefore mark sep (a :: l) = a :: putBefore mark sep l := by
  simp [putBefore, h]

@[simp] theorem putBefore_append (l more : List α) :
    putBefore mark sep (l ++ more) = putBefore mark sep l ++ putBefore mark sep more :=
  List.flatMap_append

theorem putBefore_of_not_mem {l : List α} (h : sep ∉ l) : putBefore mark sep l = l := by
  induction l with
  | nil => rfl
  | cons a l ih =>
      rw [putBefore_cons_of_ne (Ne.symm (List.ne_of_not_mem_cons h)),
        ih (List.not_mem_of_not_mem_cons h)]

theorem putBefore_ended {piece : List α} (h : sep ∉ piece) (rest : List α) :
    putBefore mark sep (piece ++ sep :: rest) =
      piece ++ mark :: sep :: putBefore mark sep rest := by
  rw [putBefore_append, putBefore_of_not_mem h, putBefore_cons_self]

/-- The separators are still the same. -/
theorem count_putBefore (h : mark ≠ sep) (l : List α) :
    (putBefore mark sep l).count sep = l.count sep := by
  induction l with
  | nil => rfl
  | cons a l ih =>
      by_cases ha : a = sep
      · rw [ha, putBefore_cons_self, List.count_cons_of_ne h, List.count_cons_self,
          List.count_cons_self, ih]
      · rw [putBefore_cons_of_ne ha, List.count_cons_of_ne ha, List.count_cons_of_ne ha, ih]

end PutBefore

/-- A text with a carriage return before every line feed. -/
def withReturns (text : List Char) : List Char := putBefore '\r' '\n' text

/-- A content with a carriage return before every line feed. -/
def withReturnBytes (content : Bytes) : Bytes := putBefore 0x0D 0x0A content

@[simp] theorem withReturns_nil : withReturns [] = [] := rfl

@[simp] theorem withReturns_lineFeed (text : List Char) :
    withReturns ('\n' :: text) = '\r' :: '\n' :: withReturns text := putBefore_cons_self text

theorem withReturns_cons {c : Char} (h : c ≠ '\n') (text : List Char) :
    withReturns (c :: text) = c :: withReturns text := putBefore_cons_of_ne h text

@[simp] theorem withReturns_append (text more : List Char) :
    withReturns (text ++ more) = withReturns text ++ withReturns more := putBefore_append text more

theorem decode_withReturnBytes (content : Bytes) :
    decode (withReturnBytes content) = withReturns (decode content) := by
  have hfeed : ∀ rest, decode (0x0A :: rest) = '\n' :: decode rest := decode_encode_append ['\n']
  have hreturn : ∀ rest, decode (0x0D :: rest) = '\r' :: decode rest := decode_encode_append ['\r']
  induction content using piece_induction (0x0A : UInt8) with
  | last line h =>
      rw [withReturnBytes, withReturns, putBefore_of_not_mem h,
        putBefore_of_not_mem (lineFeed_not_mem_decode h)]
  | ended line rest h ih =>
      rw [withReturnBytes, putBefore_ended h, decode_append (by decide), decode_append (by decide),
        hreturn, hfeed, hfeed, withReturns, putBefore_ended (lineFeed_not_mem_decode h)]
      exact congrArg (decode line ++ '\r' :: '\n' :: ·) ih

/-- What is the same for a line with a return at its end is the same for all lines. -/
theorem map_splitAt_withReturnBytes {β : Type} {f : Bytes → β}
    (hf : ∀ line, f (line ++ [0x0D]) = f line) (content : Bytes) :
    (splitAt 0x0A (withReturnBytes content)).map f = (splitAt 0x0A content).map f := by
  induction content using piece_induction (0x0A : UInt8) with
  | last line h => rw [withReturnBytes, putBefore_of_not_mem h]
  | ended line rest h ih =>
      have hline : 0x0A ∉ line ++ [0x0D] := by simpa using h
      have hsplit : withReturnBytes (line ++ 0x0A :: rest) =
          (line ++ [0x0D]) ++ 0x0A :: withReturnBytes rest := by
        rw [withReturnBytes, putBefore_ended h, List.append_assoc]
        rfl
      rw [hsplit, splitAt_append, splitAt_append, splitAt_of_not_mem hline, splitAt_of_not_mem h,
        List.map_append, List.map_append, ih, List.map_singleton, List.map_singleton, hf]

/-- An offset is on the same line before and after the returns were put in. -/
theorem lineAt_withReturns (text : List Char) (offset : Nat) :
    lineAt (withReturns text) (withReturns (text.take offset)).length = lineAt text offset := by
  have hsplit : withReturns text =
      withReturns (text.take offset) ++ withReturns (text.drop offset) := by
    rw [← withReturns_append, List.take_append_drop]
  rw [lineAt, lineAt, hsplit, List.take_left, withReturns, count_putBefore (by decide)]

/-- The returns of what a suffix leaves. -/
theorem length_withReturns_take {text rest : List Char} (h : rest <:+ text) :
    (withReturns (text.take (text.length - rest.length))).length =
      (withReturns text).length - (withReturns rest).length := by
  obtain ⟨front, rfl⟩ := h
  rw [List.length_append, Nat.add_sub_cancel, List.take_left, withReturns_append,
    List.length_append, Nat.add_sub_cancel]

/-! ### Readers -/

theorem dropWhile_withReturns {p : Char → Bool} (hp : p '\r' = p '\n') (text : List Char) :
    (withReturns text).dropWhile p = withReturns (text.dropWhile p) := by
  induction text with
  | nil => rfl
  | cons c text ih =>
      by_cases hc : c = '\n'
      · cases hfeed : p '\n' <;> simp [hc, hp, hfeed, ih]
      · rw [withReturns_cons hc, List.dropWhile_cons, List.dropWhile_cons, ih]
        split
        · rfl
        · rw [withReturns_cons hc]

theorem takeWhile_withReturns {p : Char → Bool} (hreturn : p '\r' = false)
    (hfeed : p '\n' = false) (text : List Char) :
    (withReturns text).takeWhile p = text.takeWhile p := by
  induction text with
  | nil => rfl
  | cons c text ih =>
      by_cases hc : c = '\n'
      · simp [hc, hreturn, hfeed]
      · rw [withReturns_cons hc, List.takeWhile_cons, List.takeWhile_cons, ih]

theorem skipBlanks_withReturns (text : List Char) :
    skipBlanks (withReturns text) = withReturns (skipBlanks text) :=
  dropWhile_withReturns (by decide) text

/-- A line feed at the head is a carriage return then; neither is a part of a word. -/
theorem neighbourIsWord_withReturns (text : List Char) :
    neighbourIsWord (withReturns text).head? = neighbourIsWord text.head? := by
  cases text with
  | nil => rfl
  | cons c text =>
      by_cases hc : c = '\n'
      · rw [hc]
        exact (by decide : neighbourIsWord (some '\r') = neighbourIsWord (some '\n'))
      · rw [withReturns_cons hc]
        rfl

theorem cutAt?_withReturns {sep : Char} (hreturn : sep ≠ '\r') (hfeed : sep ≠ '\n')
    (text : List Char) :
    cutAt? sep (withReturns text) =
      (cutAt? sep text).map fun cut => (withReturns cut.1, withReturns cut.2) := by
  induction text with
  | nil => rfl
  | cons c text ih =>
      by_cases hc : c = '\n'
      · simp [hc, cutAt?, hreturn.symm, hfeed.symm, ih, Function.comp_def]
      · rw [withReturns_cons hc, cutAt?, cutAt?, ih]
        by_cases hsep : c = sep
        · rw [if_pos hsep, if_pos hsep]
          rfl
        · simp [hsep, withReturns_cons hc, Function.comp_def]

end InlineAudit.Text
