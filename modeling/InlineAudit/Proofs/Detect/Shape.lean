import InlineAudit.Detect.Directive
import InlineAudit.Proofs.Detect.Pattern
import InlineAudit.Proofs.Lists
import InlineAudit.Proofs.Text.Lower

/-!
The patterns of the directive families, and that the shapes of the families see just their
matches. The shapes never look back: a name is followed by no white space of its own, a target by
no name, a qualifier by no plain name, so the first way that a part can be read is the only one
from which the rest can be. The look-ahead of the short annotation rejects nothing either, since
neither a blank nor a parenthesis starts one of the words it bars.
-/

namespace InlineAudit.Detect

open Text Pattern

/-- Reads a word, comparing the characters of the text after `fold`. -/
def readBy (fold : Char → Char) : WordReader
  | [], text => some text
  | _ :: _, [] => none
  | w :: word, c :: text => if fold c = w then readBy fold word text else none

theorem after?_eq_readBy (word text : List Char) : after? word text = readBy id word text := by
  fun_induction after? word text with
  | case1 text => rfl
  | case2 w word => rfl
  | case3 word c text ih => simp [readBy, ih]
  | case4 w word c text hne => simp [readBy, Ne.symm hne]

theorem afterAnyCase?_eq_readBy (word text : List Char) :
    afterAnyCase? word text = readBy lower word text := by
  fun_induction afterAnyCase? word text with
  | case1 text => rfl
  | case2 w word => rfl
  | case3 word c text ih => simp [readBy, ih]
  | case4 w word c text hne => simp [readBy, hne]

theorem readBy_eq_some_iff {fold : Char → Char} {word text rest : List Char} :
    readBy fold word text = some rest ↔ ∃ taken, text = taken ++ rest ∧ taken.map fold = word := by
  induction word generalizing text with
  | nil =>
      simp only [readBy, Option.some.injEq, List.map_eq_nil_iff]
      constructor
      · rintro rfl
        exact ⟨[], rfl, rfl⟩
      · rintro ⟨_, rfl, rfl⟩
        rfl
  | cons w word ih =>
      cases text with
      | nil => simp [readBy]
      | cons c text =>
          simp only [readBy, Option.ite_none_right_eq_some, ih]
          constructor
          · rintro ⟨hc, taken, rfl, hword⟩
            exact ⟨c :: taken, rfl, by simp [hc, hword]⟩
          · rintro ⟨taken, htext, hword⟩
            cases taken with
            | nil => simp at hword
            | cons d taken =>
                simp only [List.cons_append, List.cons.injEq, List.map_cons] at htext hword
                exact ⟨htext.1 ▸ hword.1, taken, htext.2, hword.2⟩

/-- Of two words that a text starts with, one starts with the other. -/
theorem readBy_comparable {fold : Char → Char} {v w text : List Char}
    (hv : (readBy fold v text).isSome) (hw : (readBy fold w text).isSome) :
    v <+: w ∨ w <+: v := by
  obtain ⟨restv, hv⟩ := Option.isSome_iff_exists.mp hv
  obtain ⟨restw, hw⟩ := Option.isSome_iff_exists.mp hw
  obtain ⟨takenv, htextv, rfl⟩ := readBy_eq_some_iff.mp hv
  obtain ⟨takenw, htextw, rfl⟩ := readBy_eq_some_iff.mp hw
  have hprefixv : takenv <+: text := ⟨restv, htextv.symm⟩
  have hprefixw : takenw <+: text := ⟨restw, htextw.symm⟩
  rcases List.prefix_or_prefix_of_prefix hprefixv hprefixw with h | h
  · exact Or.inl (h.map fold)
  · exact Or.inr (h.map fold)

theorem first_word {β : Type} (fold : Char → Char) (letters : List Char) (s : Cursor)
    (next : Cursor → Option β) :
    (word fold letters).first s next =
      (readBy fold (letters.map fold) s.rest).bind fun rest => next { s with rest := rest } := by
  induction letters generalizing s with
  | nil => simp [word, readBy]
  | cons c letters ih =>
      obtain ⟨text, captured⟩ := s
      rw [word, first_seq]
      cases text with
      | nil => simp [first, readBy]
      | cons d text =>
          by_cases hd : fold d = fold c
          · simp [first, readBy, hd] at ih ⊢
            exact ih _
          · simp [first, readBy, hd]

/-! ### The parts of the patterns -/

def sign (fold : Char → Char) (c : Char) : Pattern := word fold [c]

def anything : Pattern := group (few fun _ => true)

theorem first_sign {β : Type} {fold : Char → Char} {c : Char} (hc : ∀ d, fold d = fold c ↔ d = c)
    (s : Cursor) (next : Cursor → Option β) :
    (sign fold c).first s next =
      (after? [c] s.rest).bind fun rest => next { s with rest := rest } := by
  rw [sign, first_word]
  cases hrest : s.rest with
  | nil => rfl
  | cons d rest => simp [readBy, after?, hc, eq_comm]

/-- No sign can be read where there is still white space to skip. -/
theorem after?_of_blank {c d : Char} (hc : isBlank c = false) (hd : isBlank d = true)
    (rest : List Char) : after? [c] (d :: rest) = none := by
  have hne : c ≠ d := by
    rintro rfl
    rw [hc] at hd
    cases hd
  simp [after?, hne]

/-- The payload of an annotation ends at the first closing parenthesis. -/
theorem firstPayload_cutAt? {β : Type} (close : Char) (found : (payload rest : List Char) → β)
    (text : List Char) :
    firstPayload (fun payload rest => (after? [close] rest).map (found payload)) text =
      (cutAt? close text).map fun (payload, rest) => found payload rest := by
  induction text generalizing found with
  | nil => rw [firstPayload_nil]; rfl
  | cons c text ih =>
      rw [firstPayload_cons, ih fun payload => found (c :: payload), cutAt?]
      by_cases hc : c = close
      · simp [after?, hc]
      · simp [after?, hc, Ne.symm hc, Function.comp_def]

/-- The payload of an attribute ends at the first closing parenthesis that a bracket follows. -/
theorem firstPayload_attributePayload? {β : Type} (close : Char)
    (found : (payload rest : List Char) → β) (text : List Char) :
    firstPayload (fun payload rest =>
        (after? [')'] rest).bind fun rest => (closedBy? close rest).map (found payload)) text =
      (attributePayload? close text).map fun (payload, rest) => found payload rest := by
  induction text generalizing found with
  | nil => rw [firstPayload_nil]; rfl
  | cons c text ih =>
      rw [firstPayload_cons, ih fun payload => found (c :: payload), attributePayload?]
      by_cases hc : c = ')'
      · cases hclosed : closedBy? close text <;> simp [after?, hc, hclosed, Function.comp_def]
      · simp [after?, hc, Ne.symm hc, Function.comp_def]

/-! ### Annotations -/

/-- Opener, white space or none, and a lazy payload between parentheses. -/
def annotationPattern (opener : Pattern) : Pattern :=
  inOrder [opener, many isBlank, sign id '(', anything, sign id ')']

def genericPattern : Pattern := annotationPattern (word id "@SuppressWarnings".toList)

def variantPattern : Pattern :=
  annotationPattern (seq (word id "@Suppress".toList)
    (notAhead (anyOf [word id "Warnings".toList, word id "Lint".toList])))

theorem sign_exact (c d : Char) : id d = id c ↔ d = c := Iff.rfl

/-- What an annotation reads behind its opener. -/
theorem first_annotationTail (s : Cursor) :
    (inOrder [many isBlank, sign id '(', anything, sign id ')']).first s some =
      (after? ['('] (skipBlanks s.rest)).bind fun rest =>
        (cutAt? ')' rest).map fun (payload, rest) => { rest := rest, captured := payload } := by
  simp only [inOrder, first_seq, first_nothing, first_sign (sign_exact _), anything, first_payload]
  rw [first_many]
  · refine Option.bind_congr fun rest _ => ?_
    rw [← firstPayload_cutAt? ')' (fun payload rest => Cursor.mk rest payload) rest]
    simp only [Option.map_eq_bind, Function.comp_def]
  · intro c rest hblank
    rw [after?_of_blank (by decide) hblank, Option.bind_none]

theorem length_lt_of_first_word {fold : Char → Char} {c : Char} {letters : List Char}
    {q : Pattern} {text : List Char} {e : Cursor}
    (h : (seq (word fold (c :: letters)) q).first { rest := text } some = some e) :
    e.rest.length < text.length := by
  rw [first_seq, first_word] at h
  obtain ⟨rest, hread, hrest⟩ := Option.bind_eq_some_iff.mp h
  obtain ⟨taken, rfl, htaken⟩ := readBy_eq_some_iff.mp hread
  have hpos : 0 < taken.length := by
    have := congrArg List.length htaken
    simp at this
    omega
  rw [← head?_ways] at hrest
  have hle := length_le_of_mem_ways (List.mem_of_head? hrest)
  simp only [List.length_append] at hle ⊢
  omega

/-- A shape whose opener is read like a name sees the matches of the annotation's pattern. -/
theorem annotationShape_eq (name : String) (opener : Pattern) (before : Option Char)
    (text : List Char)
    (hopener : (annotationPattern opener).first { rest := text } some =
      (after? name.toList text).bind fun rest =>
        (inOrder [many isBlank, sign id '(', anything, sign id ')']).first { rest := rest } some) :
    annotationShape name before text =
      ((annotationPattern opener).first { rest := text } some).map fun e =>
        (e.captured, text.length - e.rest.length) := by
  rw [hopener, annotationShape]
  simp only [first_annotationTail, Option.map_eq_bind, Function.comp_def, Option.bind_eq_bind,
    Option.pure_def, Option.bind_assoc, Option.bind_some]

theorem generic_seenBy : genericPattern.SeenBy Family.annotationGeneric.shape where
  see_eq before text := by
    refine annotationShape_eq _ _ before text ?_
    rw [annotationPattern, inOrder, first_seq, first_word, List.map_id, ← after?_eq_readBy]
  shorter text e h := length_lt_of_first_word h

theorem first_annotationTail_of_letter {c : Char} {rest : List Char} (hblank : isBlank c = false)
    (hc : c ≠ '(') :
    (inOrder [many isBlank, sign id '(', anything, sign id ')']).first { rest := c :: rest } some
      = none := by
  rw [first_annotationTail]
  simp [skipBlanks, hblank, after?, Ne.symm hc]

theorem exists_cons_of_readBy {c : Char} {letters text : List Char}
    (h : (readBy id (c :: letters) text).isSome) : ∃ rest, text = c :: rest := by
  obtain ⟨rest, hrest⟩ := Option.isSome_iff_exists.mp h
  obtain ⟨taken, rfl, htaken⟩ := readBy_eq_some_iff.mp hrest
  rw [List.map_id] at htaken
  exact ⟨letters ++ rest, by simp [htaken]⟩

theorem variant_seenBy : variantPattern.SeenBy Family.annotationVariant.shape where
  see_eq before text := by
    refine annotationShape_eq _ _ before text ?_
    rw [annotationPattern, inOrder, first_seq, first_seq, first_word, List.map_id,
      ← after?_eq_readBy]
    refine Option.bind_congr fun rest _ => ?_
    rw [first_notAhead, first_anyOf]
    -- where the look-ahead bars the way, a letter follows and there is no way on anyhow
    split
    · rename_i hbarred
      obtain ⟨p, hmem, hp⟩ := List.findSome?_isSome_iff.mp hbarred
      simp only [List.mem_cons, List.not_mem_nil, or_false] at hmem
      rcases hmem with rfl | rfl
      all_goals
        rw [first_word, List.map_id] at hp
        obtain ⟨more, rfl⟩ := exists_cons_of_readBy (Option.isSome_of_isSome_bind hp)
        rw [first_annotationTail_of_letter (by decide) (by decide)]
    · rfl
  shorter text e h := by
    rw [variantPattern, annotationPattern, inOrder, first_seq_assoc] at h
    exact length_lt_of_first_word h

/-! ### Attributes -/

/-- Trying all alternatives and then none of them is the same as going on from the first one that
can be read, if all that can be read lead to one place and going on without is then impossible. -/
theorem findSome?_bind_or {α β γ : Type} {l : List α} {read : α → Option β} (next : β → Option γ)
    (start : β) (hone : ∀ a ∈ l, ∀ b ∈ l, ∀ x y, read a = some x → read b = some y → x = y)
    (hstart : ∀ a ∈ l, (read a).isSome → next start = none) :
    (l.findSome? fun a => (read a).bind next).or (next start) =
      next ((l.findSome? read).getD start) := by
  cases hread : l.findSome? read with
  | none =>
      have hnone : (l.findSome? fun a => (read a).bind next) = none := by
        rw [List.findSome?_eq_none_iff] at hread ⊢
        intro a ha
        rw [hread a ha, Option.bind_none]
      simp [hnone]
  | some x =>
      obtain ⟨a, ha, hx⟩ := List.exists_of_findSome?_eq_some hread
      have hall : ∀ b ∈ l, (read b).bind next = none ∨ (read b).bind next = next x := by
        intro b hb
        cases hy : read b with
        | none => exact Or.inl rfl
        | some y =>
            rw [hone b hb a ha y x hy hx]
            exact Or.inr rfl
      rw [hstart a ha (by rw [hx]; rfl), Option.or_none, Option.getD_some]
      -- alternatives that cannot be read fail, and all others go on from `x`
      cases hfound : l.findSome? fun a => (read a).bind next with
      | none =>
          rw [List.findSome?_eq_none_iff] at hfound
          rw [← hfound a ha, hx, Option.bind_some]
      | some z =>
          obtain ⟨b, hb, hz⟩ := List.exists_of_findSome?_eq_some hfound
          rcases hall b hb with h | h
          · rw [h] at hz
            cases hz
          · rw [← hz, h]

def qualifierWord : List Char := "System.Diagnostics.CodeAnalysis.".toList

def nameWord : List Char := "SuppressMessage".toList

/-- A target and its colon. -/
def targetPattern (fold : Char → Char) : Pattern :=
  inOrder [anyOf (attributeTargets.map fun name => word fold name.toList), many isBlank,
    sign fold ':', many isBlank]

/-- What follows the name of an attribute. -/
def argumentsPattern (fold : Char → Char) (close : Char) : Pattern :=
  inOrder [many isBlank, sign fold '(', anything, sign fold ')', many isBlank, sign fold close]

def attributePattern (fold : Char → Char) (opening close : Char) : Pattern :=
  inOrder [sign fold opening, many isBlank, (targetPattern fold).optional,
    (word fold qualifierWord).optional, word fold nameWord, argumentsPattern fold close]

def bracketPattern : Pattern := attributePattern id '[' ']'

def anglePattern : Pattern := attributePattern lower '<' '>'

/-- What attributes rely on when characters are compared after `fold`: signs stand for themselves
only, no word starts with white space, targets are written the way they are compared, and of two
words neither starts with the other. -/
structure Comparison (fold : Char → Char) : Prop where
  sign : ∀ c ∈ ['[', ']', '<', '>', ':', '(', ')'], ∀ d, fold d = fold c ↔ d = c
  letter : ∀ c ∈ ['S', 'a', 'm', 't', 'r', 'p'], ∀ d, fold d = fold c → isBlank d = false
  target : ∀ name ∈ attributeTargets, name.toList.map fold = name.toList
  qualifier_name : ¬qualifierWord.map fold <+: nameWord.map fold ∧
    ¬nameWord.map fold <+: qualifierWord.map fold
  target_word : ∀ name ∈ attributeTargets, ∀ word ∈ [qualifierWord.map fold, nameWord.map fold],
    ¬name.toList <+: word ∧ ¬word <+: name.toList
  target_target : ∀ name ∈ attributeTargets, ∀ other ∈ attributeTargets,
    name.toList <+: other.toList → name = other

theorem comparison_exact : Comparison id where
  sign c _ d := Iff.rfl
  letter c hc d hd := by
    have hletters : ∀ c ∈ ['S', 'a', 'm', 't', 'r', 'p'], isBlank c = false :=
      forall_mem_of_all (by decide)
    obtain rfl : d = c := hd
    exact hletters d hc
  target name _ := List.map_id _
  qualifier_name := by decide
  target_word := by decide
  target_target := by decide

theorem comparison_anyCase : Comparison lower where
  sign c hc d := by
    have hsigns : ∀ c ∈ ['[', ']', '<', '>', ':', '(', ')'],
        c.toNat < 0x80 ∧ c.toLower = c ∧ c.isAlpha = false :=
      forall_mem_of_all (by decide)
    obtain ⟨hascii, hself, hplain⟩ := hsigns c hc
    rw [lower_of_ascii hascii, hself]
    exact lower_eq_sign_iff hascii hself hplain
  letter c hc d hd := by
    have hletters : ∀ c ∈ ['S', 'a', 'm', 't', 'r', 'p'],
        (lower c).toNat < 0x80 ∧ (lower c).isAlpha = true ∧ lower c ≠ 'i' ∧ lower c ≠ 'k' :=
      forall_mem_of_all (by decide)
    obtain ⟨hascii, halpha, hi, hk⟩ := hletters c hc
    exact (isWord_of_lower_eq hd hascii halpha hi hk).2
  target := by decide
  qualifier_name := by decide
  target_word := by decide
  target_target := by decide

section Attribute

variable {fold : Char → Char} (hfold : Comparison fold)

include hfold

/-- What an attribute reads behind its name. -/
theorem first_argumentsPattern {close : Char} (hclose : close ∈ [']', '>']) (s : Cursor) :
    (argumentsPattern fold close).first s some =
      (after? ['('] (skipBlanks s.rest)).bind fun rest =>
        (attributePayload? close rest).map fun (payload, rest) =>
          { rest := rest, captured := payload } := by
  have hbrackets : ∀ c ∈ [']', '>'],
      c ∈ ['[', ']', '<', '>', ':', '(', ')'] ∧ isBlank c = false :=
    forall_mem_of_all (by decide)
  obtain ⟨hmem, hblank⟩ := hbrackets close hclose
  have hsign := hfold.sign close hmem
  simp only [argumentsPattern, inOrder, first_seq, first_nothing, anything, first_payload,
    first_sign (hfold.sign '(' (by simp)), first_sign (hfold.sign ')' (by simp)), first_sign hsign]
  rw [first_many]
  · refine Option.bind_congr fun rest _ => ?_
    rw [← firstPayload_attributePayload? close (fun payload rest => Cursor.mk rest payload) rest]
    congr 1
    funext payload rest
    refine Option.bind_congr fun rest _ => ?_
    rw [first_many]
    · simp only [closedBy?, Option.map_eq_bind, Function.comp_def]
      rfl
    · intro c rest hc
      rw [after?_of_blank hblank hc, Option.bind_none]
  · intro c rest hc
    rw [after?_of_blank (by decide) hc, Option.bind_none]

theorem readBy_blank {c : Char} {word : List Char} (rest : List Char) (hc : isBlank c = true)
    (hword : word.head? ∈ ['S', 'a', 'm', 't', 'r', 'p'].map some) :
    readBy fold (word.map fold) (c :: rest) = none := by
  obtain ⟨d, hd, hhead⟩ := List.mem_map.mp hword
  obtain ⟨letters, rfl⟩ := List.head?_eq_some_iff.mp hhead.symm
  have hne : fold c ≠ fold d := by
    intro h
    rw [hfold.letter d hd c h] at hc
    cases hc
  simp [readBy, hne]

/-- The qualifier is read if it is there, since nothing can go on without it then. -/
theorem first_qualifier (s : Cursor) (next : Cursor → Option Cursor) :
    (word fold qualifierWord).optional.first s (fun e => (word fold nameWord).first e next) =
      (readBy fold (nameWord.map fold)
          ((readBy fold (qualifierWord.map fold) s.rest).getD s.rest)).bind fun rest =>
        next { s with rest := rest } := by
  simp only [first_optional, first_word]
  cases hq : readBy fold (qualifierWord.map fold) s.rest with
  | none => simp
  | some rest =>
      -- the name cannot be read where the qualifier can, so the way without it is closed
      have hname : readBy fold (nameWord.map fold) s.rest = none := by
        rw [← Option.not_isSome_iff_eq_none]
        intro hname
        have hcases := readBy_comparable (by rw [hq]; rfl) hname
        exact hcases.elim hfold.qualifier_name.1 hfold.qualifier_name.2
      simp [hname]

/-- The place behind a target and its colon. -/
theorem first_targetPattern (s : Cursor) (next : Cursor → Option Cursor)
    (hstop : ∀ c rest, isBlank c = true → next { s with rest := c :: rest } = none) :
    (targetPattern fold).first s next =
      attributeTargets.findSome? fun name =>
        ((readBy fold name.toList s.rest).bind fun rest =>
          (after? [':'] (skipBlanks rest)).bind fun rest => some (skipBlanks rest)).bind fun rest =>
            next { s with rest := rest } := by
  simp only [targetPattern, inOrder, first_seq, first_nothing, first_anyOf, List.findSome?_map,
    first_sign (hfold.sign ':' (by simp))]
  refine findSome?_congr fun name hname => ?_
  simp only [Function.comp_apply]
  rw [first_word, hfold.target name hname, Option.bind_assoc]
  refine Option.bind_congr fun rest _ => ?_
  rw [first_many, Option.bind_assoc]
  · refine Option.bind_congr fun rest _ => ?_
    exact first_many { s with rest := rest } next isBlank hstop
  · intro c rest hc
    rw [after?_of_blank (by decide) hc, Option.bind_none]

/-- A target is read if it is there, since nothing can go on without it then. -/
theorem first_target (s : Cursor) (next : Cursor → Option Cursor)
    (hstop : ∀ c rest, isBlank c = true → next { s with rest := c :: rest } = none)
    (hnext : ∀ rest, (next { s with rest := rest }).isSome →
      ∃ word ∈ [qualifierWord.map fold, nameWord.map fold], (readBy fold word rest).isSome) :
    (targetPattern fold).optional.first s next =
      next { s with rest := skipTarget (readBy fold) s.rest } := by
  rw [first_optional, first_targetPattern hfold s next hstop]
  refine findSome?_bind_or (fun rest => next { s with rest := rest }) s.rest ?_ ?_
  · intro name hname other hother x y hx hy
    have hread := Option.isSome_of_isSome_bind (Option.isSome_of_eq_some hx)
    have hread' := Option.isSome_of_isSome_bind (Option.isSome_of_eq_some hy)
    -- two targets that can be read at one place are the same target
    have hsame : name = other := by
      rcases readBy_comparable hread hread' with h | h
      · exact hfold.target_target name hname other hother h
      · exact (hfold.target_target other hother name hname h).symm
    subst hsame
    exact Option.some.inj (hx.symm.trans hy)
  · intro name hname hsome
    have hread := Option.isSome_of_isSome_bind hsome
    rw [← Option.not_isSome_iff_eq_none]
    intro hgo
    obtain ⟨word, hword, hread'⟩ := hnext s.rest hgo
    obtain ⟨hshort, hlong⟩ := hfold.target_word name hname word hword
    exact (readBy_comparable hread hread').elim hshort hlong

/-- What an attribute reads behind its bracket, white space and target. -/
def namedArguments (fold : Char → Char) (close : Char) (rest : List Char) : Option Cursor :=
  (readBy fold (nameWord.map fold)
      ((readBy fold (qualifierWord.map fold) rest).getD rest)).bind fun rest =>
    (after? ['('] (skipBlanks rest)).bind fun rest =>
      (attributePayload? close rest).map fun (payload, rest) =>
        { rest := rest, captured := payload }

omit hfold in
theorem namedArguments_isSome {close : Char} {rest : List Char}
    (h : (namedArguments fold close rest).isSome) :
    ∃ word ∈ [qualifierWord.map fold, nameWord.map fold], (readBy fold word rest).isSome := by
  cases hq : readBy fold (qualifierWord.map fold) rest with
  | some after => exact ⟨qualifierWord.map fold, by simp, by rw [hq]; rfl⟩
  | none =>
      rw [namedArguments, hq] at h
      exact ⟨nameWord.map fold, by simp, Option.isSome_of_isSome_bind h⟩

theorem namedArguments_blank {close c : Char} {rest : List Char} (hc : isBlank c = true) :
    namedArguments fold close (c :: rest) = none := by
  rw [← Option.not_isSome_iff_eq_none]
  intro hsome
  obtain ⟨word, hword, hread⟩ := namedArguments_isSome hsome
  simp only [List.mem_cons, List.not_mem_nil, or_false] at hword
  rcases hword with rfl | rfl
  · rw [readBy_blank hfold rest hc (by decide)] at hread
    cases hread
  · rw [readBy_blank hfold rest hc (by decide)] at hread
    cases hread

theorem skipTarget_blank {c : Char} {rest : List Char} (hc : isBlank c = true) :
    skipTarget (readBy fold) (c :: rest) = c :: rest := by
  have hheads : ∀ name ∈ attributeTargets,
      name.toList.head? ∈ ['S', 'a', 'm', 't', 'r', 'p'].map some := by decide
  rw [skipTarget, List.findSome?_eq_none_iff.mpr, Option.getD_none]
  intro name hname
  have hread := readBy_blank hfold rest hc (hheads name hname)
  rw [hfold.target name hname] at hread
  simp [hread]

theorem first_attributePattern {opening close : Char} (hopening : opening ∈ ['[', '<'])
    (hclose : close ∈ [']', '>']) (text : List Char) :
    (attributePattern fold opening close).first { rest := text } some =
      (after? [opening] text).bind fun rest =>
        namedArguments fold close (skipTarget (readBy fold) (skipBlanks rest)) := by
  have hbrackets : ['[', '<'] ⊆ ['[', ']', '<', '>', ':', '(', ')'] := by simp
  have hname : ∀ e : Cursor, (word fold qualifierWord).optional.first e (fun e =>
      (word fold nameWord).first e fun e => (argumentsPattern fold close).first e some) =
        namedArguments fold close e.rest := by
    intro e
    rw [first_qualifier hfold]
    simp only [first_argumentsPattern hfold hclose]
    rfl
  have htarget : ∀ e : Cursor, (targetPattern fold).optional.first e (fun e =>
      namedArguments fold close e.rest) =
        namedArguments fold close (skipTarget (readBy fold) e.rest) := by
    intro e
    rw [first_target hfold]
    · intro c rest hc
      exact namedArguments_blank hfold hc
    · intro rest
      exact namedArguments_isSome
  simp only [attributePattern, inOrder, first_seq, first_nothing,
    first_sign (hfold.sign opening (hbrackets hopening)), hname, htarget]
  refine Option.bind_congr fun rest _ => ?_
  rw [first_many]
  · rfl
  · intro c rest hc
    simp only [skipTarget_blank hfold hc, namedArguments_blank hfold hc]

theorem attribute_seenBy {read : WordReader} (hread : read = readBy fold) {qualifier name : String}
    (hqualifier : qualifier.toList = qualifierWord.map fold)
    (hname : name.toList = nameWord.map fold) {opening close : Char}
    (hopening : opening ∈ ['[', '<']) (hclose : close ∈ [']', '>']) :
    (attributePattern fold opening close).SeenBy
      (attributeShape read qualifier name opening close) where
  see_eq before text := by
    rw [first_attributePattern hfold hopening hclose, attributeShape, hread, hqualifier, hname]
    simp only [namedArguments, Option.map_eq_bind, Function.comp_def, Option.bind_eq_bind,
      Option.pure_def, Option.bind_assoc, Option.bind_some]
  shorter text e h := length_lt_of_first_word h

end Attribute

theorem bracket_seenBy : bracketPattern.SeenBy Family.bracketAttribute.shape :=
  attribute_seenBy comparison_exact (by funext word text; exact after?_eq_readBy word text)
    (by decide) (by decide) (by decide) (by decide)

theorem angle_seenBy : anglePattern.SeenBy Family.angleAttribute.shape :=
  attribute_seenBy comparison_anyCase
    (by funext word text; exact afterAnyCase?_eq_readBy word text)
    (by decide) (by decide) (by decide) (by decide)

end InlineAudit.Detect
