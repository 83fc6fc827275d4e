import InlineAudit.Proofs.Detect.MarkerLine

/-!
What stripping makes of a text, and that it makes nothing more of it a second time. Blanking a
literal takes away escapes and quotes of the other kind, and yet no quote gets a partner that it
did not have: one that nothing closes is only ever followed by literals of the other kind, and the
scan for its partner goes through such a literal as it goes through blanks. So a stripped text has
its literals where the text has them, and inside of them there is nothing left to blank.
-/

namespace InlineAudit

open Detect Text

namespace Detect

/-! ### Looking for the closing quote -/

section Closing

variable {mark : Char}

theorem closing?_blanks_append (hmark : isQuoteMark mark = true) (size : Nat) {text : List Char}
    (h : closing? mark text = none) : closing? mark (List.replicate size ' ' ++ text) = none := by
  induction size with
  | zero => exact h
  | succ size ih =>
      have hblank : ' ' ≠ mark := (isQuoteMark_facts hmark).2.symm
      rw [List.replicate_succ, List.cons_append, closing?_cons_of_plain hblank (by decide), ih]
      rfl

/-- Where a quote is not closed within the body of a literal, it is looked for behind it. -/
theorem closing?_of_body_append (hmark : mark ≠ '\\') {other : Char} {body : List Char}
    (hbody : Body other body) {text : List Char} (h : closing? mark (body ++ text) = none) :
    closing? mark text = none := by
  induction hbody with
  | nil => exact h
  | @plain c body _ hplain _ ih =>
      rw [List.cons_append] at h
      by_cases hc : c = mark
      · rw [hc, closing?_cons_self] at h
        cases h
      · rw [closing?_cons_of_plain hc hplain, Option.map_eq_none_iff] at h
        exact ih h
  | @escape c body hc _ ih =>
      rw [List.cons_append, List.cons_append, closing?_escape hmark, if_neg hc,
        Option.map_eq_none_iff] at h
      exact ih h

theorem Body.of_blanks (hmark : isQuoteMark mark = true) (size : Nat) :
    Body mark (List.replicate size ' ') := by
  induction size with
  | zero => exact .nil
  | succ size ih => exact .plain (isQuoteMark_facts hmark).2.symm (by decide) ih

end Closing

/-! ### Quotes that nothing closes -/

/-- Blanking closes no quote that was not closed, be it looked for from the head of the text or,
behind an escape, from the second character on. -/
theorem closing?_blankLiterals {mark : Char} (hmark : isQuoteMark mark = true)
    (text : List Char) :
    (closing? mark text = none → closing? mark (blankLiterals 0 text) = none) ∧
      (closing? mark text.tail = none → closing? mark (blankLiterals 0 text).tail = none) := by
  have hescape : mark ≠ '\\' := (isQuoteMark_facts hmark).1
  induction text using literal_induction with
  | nil => exact ⟨id, id⟩
  | plain c rest hnone ih =>
      rw [blankLiterals_plain hnone]
      refine ⟨fun h => ?_, ih.1⟩
      by_cases hc : c = mark
      · rw [hc, closing?_cons_self] at h
        cases h
      by_cases hplain : c = '\\'
      · -- the first character of what follows is escaped, before and after
        subst hplain
        cases rest with
        | nil => exact h
        | cons d rest =>
            obtain ⟨more, hmore⟩ : ∃ more, blankLiterals 0 (d :: rest) = d :: more := by
              rw [blankLiterals]
              cases literalAt? (d :: rest) <;> exact ⟨_, rfl⟩
            have htail : closing? mark rest = none → closing? mark more = none := by
              simpa only [hmore, List.tail_cons] using ih.2
            rw [hmore]
            rw [closing?_escape hescape] at h ⊢
            split
            · rfl
            · rename_i hd
              rw [if_neg hd, Option.map_eq_none_iff] at h
              rw [htail h, Option.map_none]
      · rw [closing?_cons_of_plain hc hplain, Option.map_eq_none_iff] at h ⊢
        exact ih.1 h
  | literal other body rest hother hbody ih =>
      rw [blankLiterals_literal hother hbody]
      have hplain : other ≠ '\\' := (isQuoteMark_facts hother).1
      have hbehind : closing? mark (body ++ other :: rest) = none →
          other ≠ mark ∧ closing? mark (List.replicate body.length ' ' ++
            other :: blankLiterals 0 rest) = none := by
        intro h
        -- the literal is of the other kind, or its own closing quote would do
        have hne : other ≠ mark := by
          rintro rfl
          rw [hbody.closing? hescape] at h
          cases h
        have hrest := closing?_of_body_append hescape hbody h
        rw [closing?_cons_of_plain hne hplain, Option.map_eq_none_iff] at hrest
        refine ⟨hne, closing?_blanks_append hmark _ ?_⟩
        rw [closing?_cons_of_plain hne hplain, ih.1 hrest]
        rfl
      refine ⟨fun h => ?_, fun h => (hbehind h).2⟩
      have hne : other ≠ mark := by
        rintro rfl
        rw [closing?_cons_self] at h
        cases h
      rw [closing?_cons_of_plain hne hplain, Option.map_eq_none_iff] at h ⊢
      exact (hbehind h).2

/-- What stands at the head of a text is a literal just as before, and of the same size. -/
theorem literalAt?_blankLiterals (text : List Char) :
    literalAt? (blankLiterals 0 text) = literalAt? text := by
  induction text using literal_induction with
  | nil => rfl
  | plain c rest hnone _ =>
      rw [blankLiterals_plain hnone, hnone, literalAt?]
      rw [literalAt?] at hnone
      split
      · rename_i hmark
        rw [if_pos hmark] at hnone
        exact (closing?_blankLiterals hmark rest).1 hnone
      · rfl
  | literal mark body rest hmark hbody _ =>
      rw [blankLiterals_literal hmark hbody, literalAt?_literal hmark hbody,
        literalAt?_literal hmark (Body.of_blanks hmark _), List.length_replicate]

/-! ### The literals of a stripped text -/

theorem stripLiterals_length (text : List Char) : (stripLiterals text).length = text.length :=
  blankLiterals_length 0 text

theorem Scanned.quoted_strip_iff {text : List Char} {start stop : Nat} (h : Scanned text start) :
    Quoted (stripLiterals text) start stop ↔ Quoted text start stop := by
  rw [quoted_iff, quoted_iff, h.drop_stripLiterals, literalAt?_blankLiterals]

theorem scanned_strip_iff {text : List Char} {position : Nat} :
    Scanned (stripLiterals text) position ↔ Scanned text position := by
  constructor
  · intro h
    induction h with
    | start => exact .start
    | next _ hlt hnone ih =>
        rw [stripLiterals_length] at hlt
        exact ih.next hlt fun stop hquoted => hnone stop (ih.quoted_strip_iff.mpr hquoted)
    | jump _ hquoted ih => exact ih.jump (ih.quoted_strip_iff.mp hquoted)
  · intro h
    induction h with
    | start => exact .start
    | next h hlt hnone ih =>
        rw [← stripLiterals_length] at hlt
        exact ih.next hlt fun stop hquoted => hnone stop (h.quoted_strip_iff.mp hquoted)
    | jump h hquoted ih => exact ih.jump (h.quoted_strip_iff.mpr hquoted)

/-- A stripped text has its literals where the text has them. -/
theorem stringLiteral_strip_iff {text : List Char} {start stop : Nat} :
    StringLiteral (stripLiterals text) start stop ↔ StringLiteral text start stop := by
  constructor
  · rintro ⟨hscanned, hquoted⟩
    have h := scanned_strip_iff.mp hscanned
    exact ⟨h, h.quoted_strip_iff.mp hquoted⟩
  · rintro ⟨hscanned, hquoted⟩
    exact ⟨scanned_strip_iff.mpr hscanned, hscanned.quoted_strip_iff.mpr hquoted⟩

theorem stripLiterals_stripLiterals (text : List Char) :
    stripLiterals (stripLiterals text) = stripLiterals text := by
  apply List.ext_getElem?
  intro i
  rcases stripLiterals_cases (stripLiterals text) i with hsame | ⟨hblank, start, stop, h, hin⟩
  · exact hsame
  · rw [hblank, (stringLiteral_strip_iff.mp h).strip_inside hin.1 hin.2]

/-- An apostrophe in a string whose quote is not closed: the escaped quote is gone, and the first
quote is still alone. -/
example : stripLiterals "\" 'a\\\"b'".toList = "\" '    '".toList := by decide

/-! ### The shape of a stripped text -/

/-- The characters of a literal, with its quotes. -/
def literalText (text : List Char) (start stop : Nat) : List Char :=
  (text.drop start).take (stop + 1 - start)

/-- A literal of a text, blanked in another text: the quotes of one kind around it stay, and as
many blanks stand between them as it has characters less two, which is no fewer than none. -/
structure BlanksLiteral (text stripped : List Char) (start stop : Nat) : Prop where
  marks : ∃ mark, (mark = '"' ∨ mark = '\'') ∧ text[start]? = some mark ∧
    text[stop]? = some mark ∧ stripped[start]? = some mark ∧ stripped[stop]? = some mark
  inside : ∀ i : Nat, start < i → i < stop → stripped[i]? = some ' '
  enough : 2 ≤ (literalText text start stop).length
  replaced : ∃ mark, literalText stripped start stop =
    mark :: (List.replicate ((literalText text start stop).length - 2) ' ' ++ [mark])

/-- A text with its literals blanked and nothing else changed. -/
structure BlanksLiterals (text stripped : List Char) : Prop where
  length : stripped.length = text.length
  kept_or_blank : ∀ i : Nat, stripped[i]? = text[i]? ∨ stripped[i]? = some ' '
  changed_inside : ∀ i : Nat, stripped[i]? ≠ text[i]? →
    ∃ start stop, StringLiteral text start stop ∧ start < i ∧ i < stop
  literal : ∀ start stop, StringLiteral text start stop → BlanksLiteral text stripped start stop

theorem StringLiteral.blanksLiteral {text : List Char} {start stop : Nat}
    (h : StringLiteral text start stop) : BlanksLiteral text (stripLiterals text) start stop := by
  have hlt := h.quoted.lt
  obtain ⟨mark, hmark, hstart, hstop, hblank⟩ := h.quoted.blankLiterals
  have hfits : stop < text.length := (List.getElem?_eq_some_iff.mp hstop).1
  have hlength : (literalText text start stop).length = stop + 1 - start := by
    rw [literalText, List.length_take, List.length_drop]
    omega
  constructor
  case marks =>
    obtain ⟨first, -, hfirst, hfirst'⟩ := h.strip_marks (Or.inl rfl)
    obtain ⟨last, -, hlast, hlast'⟩ := h.strip_marks (Or.inr rfl)
    obtain rfl : first = mark := Option.some.inj (hfirst.symm.trans hstart)
    obtain rfl : last = first := Option.some.inj (hlast.symm.trans hstop)
    exact ⟨last, hmark, hstart, hstop, hfirst', hlast'⟩
  case inside => exact fun i hstart hstop => h.strip_inside hstart hstop
  case enough => omega
  case replaced =>
    refine ⟨mark, ?_⟩
    have hsize : stop + 1 - start = (stop - start - 1) + 1 + 1 := by omega
    rw [hlength, literalText, h.scanned.drop_stripLiterals, hblank, hsize, List.take_succ_cons,
      List.take_append, List.length_replicate, List.take_of_length_le (by simp),
      Nat.add_sub_cancel_left, List.take_succ_cons, List.take_zero]
    rfl

theorem stripLiterals_blanksLiterals (text : List Char) :
    BlanksLiterals text (stripLiterals text) where
  length := stripLiterals_length text
  kept_or_blank i := (stripLiterals_cases text i).imp_right And.left
  changed_inside i hne := by
    rcases stripLiterals_cases text i with hsame | ⟨-, hinside⟩
    · exact absurd hsame hne
    · exact hinside
  literal _ _ h := h.blanksLiteral

end Detect

/-- Stripping keeps the shape of a line, whatever it holds: as many characters, each the same or a
blank, and changed only strictly inside of a literal, of which the quotes stay and all the rest is
blanked. A stripped line has its literals in the same places, so stripping it again changes
nothing, down to its bytes. -/
theorem literals_stripped_in_place (line : Bytes) :
    BlanksLiterals (decode line) (decode (stripLiteralBytes line)) ∧
    (∀ start stop, StringLiteral (decode (stripLiteralBytes line)) start stop ↔
      StringLiteral (decode line) start stop) ∧
    stripLiteralBytes (stripLiteralBytes line) = stripLiteralBytes line := by
  rw [decode_stripLiteralBytes]
  refine ⟨stripLiterals_blanksLiterals _, fun start stop => stringLiteral_strip_iff, ?_⟩
  by_cases hliteral : hasLiteral (decode line) = true
  · have hstripped : stripLiteralBytes line = encode (stripLiterals (decode line)) := by
      rw [stripLiteralBytes, if_pos hliteral]
    rw [hstripped, stripLiteralBytes, decode_encode]
    split
    · rw [stripLiterals_stripLiterals]
    · rfl
  · have hline : stripLiteralBytes line = line := by
      rw [stripLiteralBytes, if_neg hliteral]
    rw [hline, hline]

end InlineAudit
