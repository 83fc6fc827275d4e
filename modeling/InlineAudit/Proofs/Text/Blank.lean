import InlineAudit.Text.Blank
import InlineAudit.Text.Word

/-!
White space at the head of a text. Skipping it leaves a text that begins with something else, and
what follows the text plays no part unless all of it is white space. White space is no part of a
word.
-/

namespace InlineAudit.Text

theorem skipBlanks_eq_iff {c : Char} (hc : isBlank c = false) {text rest : List Char} :
    skipBlanks text = c :: rest ↔
      ∃ blanks, (∀ b ∈ blanks, isBlank b = true) ∧ text = blanks ++ c :: rest := by
  constructor
  · intro h
    refine ⟨text.takeWhile isBlank, fun b hb => ?_, ?_⟩
    · exact List.all_eq_true.mp List.all_takeWhile b hb
    · rw [← h, skipBlanks, List.takeWhile_append_dropWhile]
  · rintro ⟨blanks, hblanks, rfl⟩
    rw [skipBlanks, List.dropWhile_append_of_pos hblanks, List.dropWhile_cons_of_neg (by simp [hc])]

/-- White space is skipped up to a character that is none. -/
theorem skipBlanks_append {blanks text : List Char} (hblanks : ∀ c ∈ blanks, isBlank c = true)
    (htext : ∀ c, text.head? = some c → isBlank c = false) :
    skipBlanks (blanks ++ text) = text := by
  rw [skipBlanks, List.dropWhile_append_of_pos hblanks]
  cases text with
  | nil => rfl
  | cons c text => rw [List.dropWhile_cons_of_neg (by simp [htext c rfl])]

theorem skipBlanks_eq_append (text : List Char) :
    ∃ blanks, (∀ c ∈ blanks, isBlank c = true) ∧ text = blanks ++ skipBlanks text :=
  ⟨text.takeWhile isBlank, fun c hc => List.all_eq_true.mp List.all_takeWhile c hc,
    List.takeWhile_append_dropWhile.symm⟩

/-- Either a text is all white space, or what follows it has no part in skipping. -/
theorem skipBlanks_cases (text : List Char) :
    (∀ c ∈ text, isBlank c = true) ∨
      ∃ c rest, isBlank c = false ∧ ∀ more, skipBlanks (text ++ more) = c :: (rest ++ more) := by
  induction text with
  | nil => exact Or.inl (by simp)
  | cons c text ih =>
    cases hc : isBlank c with
    | false =>
      refine Or.inr ⟨c, text, hc, fun more => ?_⟩
      rw [List.cons_append, skipBlanks, List.dropWhile_cons_of_neg (by simp [hc])]
    | true =>
      rcases ih with hall | ⟨d, rest, hd, hskip⟩
      · exact Or.inl (List.forall_mem_cons.mpr ⟨hc, hall⟩)
      · refine Or.inr ⟨d, rest, hd, fun more => ?_⟩
        rw [List.cons_append, skipBlanks, List.dropWhile_cons_of_pos hc]
        exact hskip more

/-- Nothing is skipped of what follows a text if that begins with something else. -/
theorem skipBlanks_append_of_stop {more : List Char}
    (hmore : ∀ c, more.head? = some c → isBlank c = false) (text : List Char) :
    skipBlanks (text ++ more) = skipBlanks text ++ more := by
  rw [skipBlanks, skipBlanks, List.dropWhile_append]
  split
  · rename_i hall
    rw [List.isEmpty_iff.mp hall]
    exact skipBlanks_append (List.forall_mem_nil _) hmore
  · rfl

/-- All white space, by code points. -/
def blankCodes : List Nat :=
  List.range' 0x9 5 ++ [0x20, 0x85, 0xA0, 0x1680] ++ List.range' 0x2000 11 ++
    [0x2028, 0x2029, 0x202F, 0x205F, 0x3000]

theorem toNat_mem_blankCodes {c : Char} (h : isBlank c = true) : c.toNat ∈ blankCodes := by
  simp only [isBlank, inRuns, Bool.if_false_left, Bool.and_eq_true, Bool.or_eq_true,
    Bool.not_eq_true', decide_eq_true_eq, decide_eq_false_iff_not, Bool.false_eq_true,
    or_false] at h
  simp only [blankCodes, List.mem_append, List.mem_range'_1, List.mem_cons, List.not_mem_nil,
    or_false]
  omega

theorem not_isWord_of_isBlank {c : Char} (h : isBlank c = true) : isWord c = false := by
  have hall : ∀ n ∈ blankCodes, inRuns n wordBounds = false := by decide +kernel
  exact hall _ (toNat_mem_blankCodes h)

end InlineAudit.Text
