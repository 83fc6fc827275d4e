import InlineAudit.Detect.Literal
import Mathlib.Data.List.Basic

/-!
String literals by positions. A scanner goes through a text from left to right: where a quote is
closed by a quote of its kind, the two and what is between them are a literal and the scan goes on
behind it; anywhere else it goes on at the next character. Stripping blanks just what lies strictly
inside a literal of the scanner and moves nothing.
-/

namespace InlineAudit.Detect

open Text

/-- What may stand between two quotes `mark`: a backslash takes the character after it along,
which is any but a line feed, and nothing else is the quote. -/
inductive Body (mark : Char) : List Char → Prop
  | nil : Body mark []
  | plain {c : Char} {rest : List Char} (hmark : c ≠ mark) (hplain : c ≠ '\\')
      (hrest : Body mark rest) : Body mark (c :: rest)
  | escape {c : Char} {rest : List Char} (hc : c ≠ '\n') (hrest : Body mark rest) :
      Body mark ('\\' :: c :: rest)

/-- A quote at `start` whose first unescaped partner is at `stop`. -/
def Quoted (text : List Char) (start stop : Nat) : Prop :=
  ∃ mark body rest, (mark = '"' ∨ mark = '\'') ∧ Body mark body ∧
    text.drop start = mark :: (body ++ mark :: rest) ∧ stop = start + body.length + 1

/-- The positions at which the scanner looks for a literal. -/
inductive Scanned (text : List Char) : Nat → Prop
  | start : Scanned text 0
  | next {position : Nat} (h : Scanned text position) (hlt : position < text.length)
      (hnone : ∀ stop, ¬Quoted text position stop) : Scanned text (position + 1)
  | jump {position stop : Nat} (h : Scanned text position) (hquoted : Quoted text position stop) :
      Scanned text (stop + 1)

/-- A string literal of a text, from its opening to its closing quote. -/
structure StringLiteral (text : List Char) (start stop : Nat) : Prop where
  scanned : Scanned text start
  quoted : Quoted text start stop

/-- A position in no string literal. -/
def Outside (text : List Char) (position : Nat) : Prop :=
  ∀ start stop, StringLiteral text start stop → ¬(start ≤ position ∧ position ≤ stop)

/-! ### Closing quotes -/

theorem isQuoteMark_iff {c : Char} : isQuoteMark c = true ↔ c = '"' ∨ c = '\'' := by
  simp [isQuoteMark]

theorem isQuoteMark_facts {mark : Char} (h : isQuoteMark mark = true) :
    mark ≠ '\\' ∧ mark ≠ ' ' := by
  rcases isQuoteMark_iff.mp h with rfl | rfl <;> decide

section Closing

variable {mark : Char}

theorem closing?_cons_self (text : List Char) : closing? mark (mark :: text) = some 0 := by
  cases text <;> simp [closing?]

theorem closing?_cons_of_plain {c : Char} (hmark : c ≠ mark) (hplain : c ≠ '\\')
    (text : List Char) : closing? mark (c :: text) = (closing? mark text).map (· + 1) := by
  cases text <;> simp [closing?, hmark, hplain]

theorem closing?_escape (hmark : mark ≠ '\\') (c : Char) (text : List Char) :
    closing? mark ('\\' :: c :: text) =
      if c = '\n' then none else (closing? mark text).map (· + 2) := by
  rw [closing?, if_neg (Ne.symm hmark), if_pos rfl]

theorem Body.closing? (hmark : mark ≠ '\\') {body : List Char} (h : Body mark body)
    (rest : List Char) : closing? mark (body ++ mark :: rest) = some body.length := by
  induction h with
  | nil => exact closing?_cons_self rest
  | plain hne hplain _ ih =>
      rw [List.cons_append, closing?_cons_of_plain hne hplain, ih]
      rfl
  | escape hc _ ih =>
      rw [List.cons_append, List.cons_append, closing?_escape hmark, if_neg hc, ih]
      rfl

end Closing

theorem exists_body_of_closing? {mark : Char} {text : List Char} {size : Nat}
    (h : closing? mark text = some size) :
    ∃ body rest, Body mark body ∧ body.length = size ∧ text = body ++ mark :: rest := by
  fun_induction Detect.closing? mark text generalizing size with
  | case1 => cases h
  | case2 => exact ⟨[], [], .nil, by simpa using h, rfl⟩
  | case3 => cases h
  | case4 d rest => exact ⟨[], d :: rest, .nil, by simpa using h, rfl⟩
  | case5 => cases h
  -- an escape takes two characters, whatever the second one is
  | case6 d rest hd hmark ih =>
      obtain ⟨inner, hinner, rfl⟩ := Option.map_eq_some_iff.mp h
      obtain ⟨body, more, hbody, rfl, rfl⟩ := ih hinner
      exact ⟨'\\' :: d :: body, more, .escape hd hbody, rfl, rfl⟩
  | case7 c d rest hmark hplain ih =>
      obtain ⟨inner, hinner, rfl⟩ := Option.map_eq_some_iff.mp h
      obtain ⟨body, more, hbody, rfl, hmore⟩ := ih hinner
      exact ⟨c :: body, more, .plain hmark hplain hbody, rfl, by rw [hmore, List.cons_append]⟩

/-! ### Literals at the head of a text -/

theorem literalAt?_literal {mark : Char} (hmark : isQuoteMark mark = true) {body : List Char}
    (hbody : Body mark body) (rest : List Char) :
    literalAt? (mark :: (body ++ mark :: rest)) = some body.length := by
  rw [literalAt?, if_pos hmark, hbody.closing? (isQuoteMark_facts hmark).1]

/-- Induction along the scan of a text: over what begins with no literal, and over a literal with
what follows it. -/
theorem literal_induction {motive : List Char → Prop} (nil : motive [])
    (plain : ∀ c rest, literalAt? (c :: rest) = none → motive rest → motive (c :: rest))
    (literal : ∀ mark body rest, isQuoteMark mark = true → Body mark body → motive rest →
      motive (mark :: (body ++ mark :: rest)))
    (text : List Char) : motive text := by
  induction hlength : text.length using Nat.strongRecOn generalizing text with
  | ind n ih =>
      cases text with
      | nil => exact nil
      | cons c rest =>
          rw [List.length_cons] at hlength
          cases hliteral : literalAt? (c :: rest) with
          | none => exact plain c rest hliteral (ih rest.length (by omega) rest rfl)
          | some size =>
              obtain ⟨hmark, hclosing⟩ := Option.ite_none_right_eq_some.mp hliteral
              obtain ⟨body, more, hbody, -, rfl⟩ := exists_body_of_closing? hclosing
              rw [List.length_append, List.length_cons] at hlength
              exact literal c body more hmark hbody (ih more.length (by omega) more rfl)

theorem quoted_iff {text : List Char} {start stop : Nat} :
    Quoted text start stop ↔
      ∃ size, literalAt? (text.drop start) = some size ∧ stop = start + size + 1 := by
  constructor
  · rintro ⟨mark, body, rest, hmark, hbody, htext, rfl⟩
    exact ⟨body.length, by rw [htext, literalAt?_literal (isQuoteMark_iff.mpr hmark) hbody], rfl⟩
  · rintro ⟨size, hliteral, rfl⟩
    cases htext : text.drop start with
    | nil =>
        rw [htext] at hliteral
        cases hliteral
    | cons mark follow =>
        rw [htext, literalAt?] at hliteral
        split at hliteral
        · rename_i hmark
          obtain ⟨body, rest, hbody, rfl, rfl⟩ := exists_body_of_closing? hliteral
          exact ⟨mark, body, rest, isQuoteMark_iff.mp hmark, hbody, htext, rfl⟩
        · cases hliteral

theorem literalAt?_eq_none {text : List Char} {position : Nat}
    (h : ∀ stop, ¬Quoted text position stop) : literalAt? (text.drop position) = none := by
  cases hliteral : literalAt? (text.drop position) with
  | none => rfl
  | some size => exact absurd (quoted_iff.mpr ⟨size, hliteral, rfl⟩) (h _)

theorem Quoted.lt {text : List Char} {start stop : Nat} (h : Quoted text start stop) :
    start < stop := by
  obtain ⟨_, _, _, _, _, _, rfl⟩ := h
  omega

theorem blankLiterals_inside (mark : Char) (body rest : List Char) :
    blankLiterals (body.length + 1) (body ++ mark :: rest) =
      List.replicate body.length ' ' ++ mark :: blankLiterals 0 rest := by
  induction body with
  | nil => rfl
  | cons c body ih =>
      rw [List.length_cons, List.cons_append, blankLiterals, ih]
      rfl

theorem blankLiterals_literal {mark : Char} (hmark : isQuoteMark mark = true) {body : List Char}
    (hbody : Body mark body) (rest : List Char) :
    blankLiterals 0 (mark :: (body ++ mark :: rest)) =
      mark :: (List.replicate body.length ' ' ++ mark :: blankLiterals 0 rest) := by
  rw [blankLiterals, literalAt?_literal hmark hbody]
  simp only [blankLiterals_inside]

theorem blankLiterals_plain {c : Char} {rest : List Char} (h : literalAt? (c :: rest) = none) :
    blankLiterals 0 (c :: rest) = c :: blankLiterals 0 rest := by
  rw [blankLiterals, h]

/-- A literal at the head of a text: its two quotes stay, and what is between them is blanked. -/
theorem Quoted.blankLiterals {text : List Char} {start stop : Nat} (h : Quoted text start stop) :
    ∃ mark, (mark = '"' ∨ mark = '\'') ∧ text[start]? = some mark ∧ text[stop]? = some mark ∧
      blankLiterals 0 (text.drop start) = mark :: (List.replicate (stop - start - 1) ' ' ++
        mark :: blankLiterals 0 (text.drop (stop + 1))) := by
  obtain ⟨mark, body, rest, hmark, hbody, htext, rfl⟩ := h
  have hfirst : (text.drop start)[0]? = some mark := by rw [htext]; rfl
  have hlast : (text.drop start)[body.length + 1]? = some mark := by rw [htext]; simp
  have hrest : text.drop (start + body.length + 1 + 1) = rest := by
    rw [Nat.add_assoc, Nat.add_assoc, ← List.drop_drop, htext]
    simp
  have hsize : start + body.length + 1 - start - 1 = body.length := by omega
  rw [List.getElem?_drop] at hfirst hlast
  refine ⟨mark, hmark, hfirst, hlast, ?_⟩
  rw [hrest, htext, hsize, blankLiterals_literal (isQuoteMark_iff.mpr hmark) hbody]

theorem blankLiterals_length (inside : Nat) (text : List Char) :
    (blankLiterals inside text).length = text.length := by
  fun_induction Detect.blankLiterals inside text with
  | case1 => rfl
  | case2 left c rest ih => rw [List.length_cons, List.length_cons, ih]
  | case3 c rest ih => rw [List.length_cons, List.length_cons, ih]
  | case4 c rest size hsize ih => rw [List.length_cons, List.length_cons, ih]
  | case5 c rest hnone ih => rw [List.length_cons, List.length_cons, ih]

theorem blankLiterals_of_none {text : List Char} {position : Nat} (hlt : position < text.length)
    (hnone : ∀ stop, ¬Quoted text position stop) :
    blankLiterals 0 (text.drop position) =
      text[position] :: blankLiterals 0 (text.drop (position + 1)) := by
  have hliteral := literalAt?_eq_none hnone
  rw [List.drop_eq_getElem_cons hlt] at hliteral ⊢
  exact blankLiterals_plain hliteral

/-- Stripping starts anew wherever the scanner looks. -/
theorem Scanned.drop_stripLiterals {text : List Char} {position : Nat}
    (h : Scanned text position) :
    (stripLiterals text).drop position = blankLiterals 0 (text.drop position) := by
  induction h with
  | start => rfl
  | @next position _ hlt hnone ih =>
      rw [← List.drop_drop, ih, blankLiterals_of_none hlt hnone]
      rfl
  | @jump position stop _ hquoted ih =>
      obtain ⟨mark, _, _, _, hblank⟩ := hquoted.blankLiterals
      have hsize : stop + 1 = position + ((stop - position - 1) + 1 + 1) := by
        have := hquoted.lt
        omega
      rw [hsize, ← List.drop_drop, ih, ← hsize, hblank, List.drop_succ_cons, List.drop_append,
        List.length_replicate, Nat.add_sub_cancel_left]
      simp

theorem Scanned.stripLiterals_getElem? {text : List Char} {position : Nat}
    (h : Scanned text position) (i : Nat) :
    (stripLiterals text)[position + i]? = (blankLiterals 0 (text.drop position))[i]? := by
  rw [← h.drop_stripLiterals, List.getElem?_drop]

theorem StringLiteral.strip_inside {text : List Char} {start stop : Nat}
    (h : StringLiteral text start stop) {position : Nat} (hstart : start < position)
    (hstop : position < stop) : (stripLiterals text)[position]? = some ' ' := by
  obtain ⟨i, rfl⟩ : ∃ i, position = start + (i + 1) := ⟨position - start - 1, by omega⟩
  obtain ⟨mark, _, _, _, hblank⟩ := h.quoted.blankLiterals
  rw [h.scanned.stripLiterals_getElem?, hblank, List.getElem?_cons_succ,
    List.getElem?_append_left (by rw [List.length_replicate]; omega), List.getElem?_replicate,
    if_pos (by omega)]

/-- Both ends of a literal are quotes, and they stay. -/
theorem StringLiteral.strip_marks {text : List Char} {start stop : Nat}
    (h : StringLiteral text start stop) {position : Nat}
    (hend : position = start ∨ position = stop) :
    ∃ mark, (mark = '"' ∨ mark = '\'') ∧ text[position]? = some mark ∧
      (stripLiterals text)[position]? = some mark := by
  obtain ⟨mark, hmark, hfirst, hlast, hblank⟩ := h.quoted.blankLiterals
  refine ⟨mark, hmark, ?_⟩
  rcases hend with rfl | rfl
  · have hget := h.scanned.stripLiterals_getElem? 0
    rw [hblank] at hget
    exact ⟨hfirst, hget⟩
  · have hget := h.scanned.stripLiterals_getElem? (position - start - 1 + 1)
    have hsize : start + (position - start - 1 + 1) = position := by
      have := h.quoted.lt
      omega
    rw [hblank, hsize, List.getElem?_cons_succ, List.getElem?_append_right (by simp),
      List.length_replicate, Nat.sub_self] at hget
    exact ⟨hlast, hget⟩

/-- The scanner gets everywhere: each position is one it looks at or lies in a literal. -/
theorem scanned_or_inside (text : List Char) {position : Nat} (h : position ≤ text.length) :
    Scanned text position ∨
      ∃ start stop, StringLiteral text start stop ∧ start < position ∧ position ≤ stop := by
  induction position with
  | zero => exact Or.inl .start
  | succ position ih =>
      -- a literal that reaches the position either goes on or ends there and is jumped over
      rcases ih (by omega) with hscanned | ⟨start, stop, hliteral, hlt, hle⟩
      · by_cases hquoted : ∃ stop, Quoted text position stop
        · obtain ⟨stop, hquoted⟩ := hquoted
          exact Or.inr ⟨position, stop, ⟨hscanned, hquoted⟩, by omega, hquoted.lt⟩
        · exact Or.inl (hscanned.next (by omega) (not_exists.mp hquoted))
      · rcases Nat.lt_or_eq_of_le hle with hlt' | rfl
        · exact Or.inr ⟨start, stop, hliteral, by omega, hlt'⟩
        · exact Or.inl (hliteral.scanned.jump hliteral.quoted)

/-- A position outside all literals is one at which the scanner looks and finds none. -/
theorem Outside.scanned {text : List Char} {position : Nat} (h : Outside text position)
    (hlt : position < text.length) :
    Scanned text position ∧ ∀ stop, ¬Quoted text position stop := by
  rcases scanned_or_inside text (Nat.le_of_lt hlt) with hscanned | ⟨start, stop, hliteral, hin⟩
  · refine ⟨hscanned, fun stop hquoted => ?_⟩
    exact h position stop ⟨hscanned, hquoted⟩ ⟨Nat.le_refl _, Nat.le_of_lt hquoted.lt⟩
  · exact absurd ⟨Nat.le_of_lt hin.1, hin.2⟩ (h start stop hliteral)

theorem Outside.strip {text : List Char} {position : Nat} (h : Outside text position) :
    (stripLiterals text)[position]? = text[position]? := by
  by_cases hlt : position < text.length
  · obtain ⟨hscanned, hnone⟩ := h.scanned hlt
    have hget := hscanned.stripLiterals_getElem? 0
    rw [blankLiterals_of_none hlt hnone] at hget
    simpa [hlt] using hget
  · have hlength : (stripLiterals text).length = text.length := blankLiterals_length 0 text
    rw [List.getElem?_eq_none (by omega), List.getElem?_eq_none (by omega)]

/-- Stripping changes a position only strictly inside a literal, where it puts a blank. -/
theorem stripLiterals_cases (text : List Char) (position : Nat) :
    (stripLiterals text)[position]? = text[position]? ∨
      (stripLiterals text)[position]? = some ' ' ∧
        ∃ start stop, StringLiteral text start stop ∧ start < position ∧ position < stop := by
  by_cases hout : Outside text position
  · exact Or.inl hout.strip
  · simp only [Outside, not_forall, not_not] at hout
    obtain ⟨start, stop, hliteral, hstart, hstop⟩ := hout
    by_cases hend : position = start ∨ position = stop
    · obtain ⟨mark, _, htext, hstrip⟩ := hliteral.strip_marks hend
      exact Or.inl (hstrip.trans htext.symm)
    · have hin : start < position ∧ position < stop := by omega
      exact Or.inr ⟨hliteral.strip_inside hin.1 hin.2, start, stop, hliteral, hin⟩

/-! ### A last character that is no quote -/

section Last

variable {last : Char} (hlast : isQuoteMark last = false)

include hlast

theorem closing?_concat {mark : Char} (hmark : isQuoteMark mark = true) (text : List Char) :
    closing? mark (text ++ [last]) = closing? mark text := by
  have hne : last ≠ mark := by
    rintro rfl
    rw [hlast] at hmark
    cases hmark
  fun_induction Detect.closing? mark text with
  | case1 => simp [Detect.closing?, hne]
  | case2 => simp [Detect.closing?]
  | case3 c hc => simp [Detect.closing?, hc, hne]
  | case4 d rest => simp [Detect.closing?]
  | case5 rest hescape => simp [Detect.closing?, hescape]
  | case6 d rest hfeed hescape ih => simp [Detect.closing?, hescape, hfeed, ih]
  | case7 c d rest hc hplain ih =>
      rw [List.cons_append] at ih
      simp [Detect.closing?, hc, hplain, ih]

theorem literalAt?_concat (text : List Char) : literalAt? (text ++ [last]) = literalAt? text := by
  cases text with
  | nil => simp [literalAt?, hlast]
  | cons c text =>
      rw [List.cons_append, literalAt?, literalAt?]
      split
      · exact closing?_concat hlast ‹_› text
      · rfl

theorem stripLiterals_concat (text : List Char) :
    stripLiterals (text ++ [last]) = stripLiterals text ++ [last] := by
  induction text using literal_induction with
  | nil => simp [stripLiterals, blankLiterals, literalAt?, hlast]
  | plain c rest hnone ih =>
      have hsame : literalAt? (c :: (rest ++ [last])) = none :=
        (literalAt?_concat hlast (c :: rest)).trans hnone
      rw [List.cons_append, stripLiterals, stripLiterals, blankLiterals_plain hsame,
        blankLiterals_plain hnone]
      exact congrArg (c :: ·) ih
  | literal mark body rest hmark hbody ih =>
      rw [List.cons_append, List.append_assoc, List.cons_append, stripLiterals, stripLiterals,
        blankLiterals_literal hmark hbody, blankLiterals_literal hmark hbody, ← stripLiterals,
        ← stripLiterals, ih]
      simp

end Last

theorem stripLiterals_of_no_literal {text : List Char} (h : hasLiteral text = false) :
    stripLiterals text = text := by
  induction text with
  | nil => rfl
  | cons c rest ih =>
      rw [hasLiteral, Bool.or_eq_false_iff, Option.isSome_eq_false_iff, Option.isNone_iff_eq_none]
        at h
      rw [stripLiterals, blankLiterals_plain h.1]
      exact congrArg (c :: ·) (ih h.2)

end InlineAudit.Detect
