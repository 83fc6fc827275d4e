import InlineAudit.Proofs.Detect.Annotation

/-!
The openers of attributes. An opener is a bracket, a target with its colon or none, the qualified
or plain name, and an opening parenthesis; white space may stand behind the bracket, around the
colon and behind the name. The parts are told apart by their words alone, so a text has at most
one opener at its head, and the shapes of the attribute families read just that one.
-/

namespace InlineAudit.Detect

open Text

/-- A target and its colon, with white space around the colon or none. -/
def IsTarget (fold : Char → Char) (target : List Char) : Prop :=
  ∃ name ∈ attributeTargets, ∃ word before after, word.map fold = name.toList ∧
    (∀ c ∈ before, isBlank c = true) ∧ (∀ c ∈ after, isBlank c = true) ∧
    target = word ++ (before ++ ':' :: after)

/-- A text starts with the opener of an attribute, and `rest` follows its opening parenthesis. -/
def Opens (fold : Char → Char) (opening : Char) (text rest : List Char) : Prop :=
  ∃ blanks target qualifier name gap, (∀ c ∈ blanks, isBlank c = true) ∧
    (target = [] ∨ IsTarget fold target) ∧
    (qualifier = [] ∨ qualifier.map fold = qualifierWord.map fold) ∧
    name.map fold = nameWord.map fold ∧ (∀ c ∈ gap, isBlank c = true) ∧
    text = opening :: (blanks ++ (target ++ (qualifier ++ (name ++ (gap ++ '(' :: rest)))))

/-- The text behind the opener at the head of a text. -/
def behindOpener? (fold : Char → Char) (opening : Char) (text : List Char) : Option (List Char) :=
  (after? [opening] text).bind fun rest =>
    let rest := skipTarget (readBy fold) (skipBlanks rest)
    (readBy fold (nameWord.map fold) ((readBy fold (qualifierWord.map fold) rest).getD rest)).bind
      fun rest => after? ['('] (skipBlanks rest)

theorem readBy_append {fold : Char → Char} {word taken : List Char} (h : taken.map fold = word)
    (rest : List Char) : readBy fold word (taken ++ rest) = some rest :=
  readBy_eq_some_iff.mpr ⟨taken, rfl, h⟩

section Reading

variable {fold : Char → Char} {opening : Char} {text rest : List Char}

/-- What is skipped as a target is one, or nothing. -/
theorem skipTarget_eq_append (fold : Char → Char) (text : List Char) :
    ∃ target, (target = [] ∨ IsTarget fold target) ∧
      text = target ++ skipTarget (readBy fold) text := by
  rw [skipTarget]
  cases hfound : attributeTargets.findSome? _ with
  | none => exact ⟨[], Or.inl rfl, rfl⟩
  | some behind =>
      obtain ⟨name, hname, hread⟩ := List.exists_of_findSome?_eq_some hfound
      simp only [Option.bind_eq_bind, Option.bind_eq_some_iff, Option.pure_def, Option.some.injEq]
        at hread
      obtain ⟨afterWord, hword, afterColon, hcolon, rfl⟩ := hread
      obtain ⟨word, rfl, hfold⟩ := readBy_eq_some_iff.mp hword
      rw [after?_eq_some_iff, List.singleton_append,
        skipBlanks_eq_iff (show isBlank ':' = false by decide)] at hcolon
      obtain ⟨before, hbefore, rfl⟩ := hcolon
      obtain ⟨after, hafter, hsplit⟩ := skipBlanks_eq_append afterColon
      refine ⟨word ++ (before ++ ':' :: after), Or.inr ?_, ?_⟩
      · exact ⟨name, hname, word, before, after, hfold, hbefore, hafter, rfl⟩
      · rw [Option.getD_some, List.append_assoc, List.append_assoc, List.cons_append, ← hsplit]

theorem opens_of_behindOpener? (h : behindOpener? fold opening text = some rest) :
    Opens fold opening text rest := by
  simp only [behindOpener?, Option.bind_eq_some_iff, after?_eq_some_iff, List.singleton_append]
    at h
  obtain ⟨inside, rfl, afterName, hname, hparen⟩ := h
  obtain ⟨blanks, hblanks, hinside⟩ := skipBlanks_eq_append inside
  obtain ⟨target, htarget, hsplit⟩ := skipTarget_eq_append fold (skipBlanks inside)
  rw [skipBlanks_eq_iff (show isBlank '(' = false by decide)] at hparen
  obtain ⟨gap, hgap, rfl⟩ := hparen
  obtain ⟨name, hrest, hfold⟩ := readBy_eq_some_iff.mp hname
  obtain ⟨qualifier, hqualifier, hqualified⟩ : ∃ qualifier,
      (qualifier = [] ∨ qualifier.map fold = qualifierWord.map fold) ∧
      skipTarget (readBy fold) (skipBlanks inside) =
        qualifier ++ (name ++ (gap ++ '(' :: rest)) := by
    cases hq : readBy fold (qualifierWord.map fold) (skipTarget (readBy fold) (skipBlanks inside))
      with
    | none =>
        rw [hq, Option.getD_none] at hrest
        exact ⟨[], Or.inl rfl, hrest⟩
    | some behind =>
        rw [hq, Option.getD_some] at hrest
        obtain ⟨qualifier, heq, hword⟩ := readBy_eq_some_iff.mp hq
        exact ⟨qualifier, Or.inr hword, by rw [heq, hrest]⟩
  refine ⟨blanks, target, qualifier, name, gap, hblanks, htarget, hqualifier, hfold, hgap, ?_⟩
  rw [← hqualified, ← hsplit, ← hinside]

variable (hfold : Comparison fold)

include hfold

/-- A folded word of an opener is not empty and starts with no white space. -/
theorem head_not_blank (word : List Char) {taken : List Char}
    (hword : word.head? ∈ ['S', 'a', 'm', 't', 'r', 'p'].map some)
    (htaken : taken.map fold = word.map fold) (rest : List Char) :
    ∀ c, (taken ++ rest).head? = some c → isBlank c = false := by
  obtain ⟨d, hd, hhead⟩ := List.mem_map.mp hword
  obtain ⟨letters, rfl⟩ := List.head?_eq_some_iff.mp hhead.symm
  cases taken with
  | nil => simp at htaken
  | cons e taken =>
      intro c hc
      obtain rfl : e = c := Option.some.inj hc
      exact hfold.letter d hd e (List.cons.inj htaken).1

/-- No target is read where the qualifier or the name stands. -/
theorem skipTarget_of_word {word taken : List Char}
    (hword : word ∈ [qualifierWord.map fold, nameWord.map fold]) (htaken : taken.map fold = word)
    (rest : List Char) : skipTarget (readBy fold) (taken ++ rest) = taken ++ rest := by
  rw [skipTarget, List.findSome?_eq_none_iff.mpr, Option.getD_none]
  intro name hname
  have hread : readBy fold name.toList (taken ++ rest) = none := by
    rw [← Option.not_isSome_iff_eq_none]
    intro hsome
    have hother : (readBy fold word (taken ++ rest)).isSome := by
      rw [readBy_append htaken]
      rfl
    obtain ⟨hshort, hlong⟩ := hfold.target_word name hname word hword
    exact (readBy_comparable hsome hother).elim hshort hlong
  rw [hread]
  rfl

/-- A target at the head of a text is read up to what follows it. -/
theorem skipTarget_of_isTarget {target rest : List Char} (htarget : IsTarget fold target)
    (hrest : ∀ c, rest.head? = some c → isBlank c = false) :
    skipTarget (readBy fold) (target ++ rest) = rest := by
  obtain ⟨name, hname, word, before, after, hword, hbefore, hafter, rfl⟩ := htarget
  have hread : ∀ other ∈ attributeTargets,
      (readBy fold other.toList (word ++ (before ++ ':' :: (after ++ rest)))).isSome →
        other = name := by
    intro other hother hsome
    have hself : (readBy fold name.toList (word ++ (before ++ ':' :: (after ++ rest)))).isSome := by
      rw [readBy_append hword]
      rfl
    rcases readBy_comparable hsome hself with h | h
    · exact hfold.target_target other hother name hname h
    · exact (hfold.target_target name hname other hother h).symm
  have hcolon : skipBlanks (before ++ ':' :: (after ++ rest)) = ':' :: (after ++ rest) :=
    (skipBlanks_eq_iff (by decide)).mpr ⟨before, hbefore, rfl⟩
  simp only [List.append_assoc, List.cons_append]
  rw [skipTarget]
  cases hfound : attributeTargets.findSome? _ with
  | none =>
      have hnone := List.findSome?_eq_none_iff.mp hfound name hname
      simp [readBy_append hword, hcolon, after?] at hnone
  | some behind =>
      obtain ⟨other, hother, hbehind⟩ := List.exists_of_findSome?_eq_some hfound
      have hsome := Option.isSome_of_isSome_bind (Option.isSome_of_eq_some hbehind)
      obtain rfl := hread other hother hsome
      have hskip : skipBlanks (after ++ rest) = rest := skipBlanks_append hafter hrest
      simp only [readBy_append hword, hcolon, after?, Option.bind_eq_bind, Option.bind_some,
        Option.pure_def, if_true, hskip, Option.some.injEq] at hbehind
      rw [Option.getD_some, hbehind]

/-- The opener at the head of a text is read as it is written. -/
theorem Opens.behindOpener? (h : Opens fold opening text rest) :
    behindOpener? fold opening text = some rest := by
  obtain ⟨blanks, target, qualifier, name, gap, hblanks, htarget, hqualifier, hname, hgap, rfl⟩ := h
  have hnameHead := head_not_blank hfold nameWord (by decide) hname (gap ++ '(' :: rest)
  have hqualifiedHead : ∀ c, (qualifier ++ (name ++ (gap ++ '(' :: rest))).head? = some c →
      isBlank c = false := by
    rcases hqualifier with rfl | hq
    · exact hnameHead
    · exact head_not_blank hfold qualifierWord (by decide) hq _
  have htargetHead : ∀ c, (target ++ (qualifier ++ (name ++ (gap ++ '(' :: rest)))).head? = some c →
      isBlank c = false := by
    rcases htarget with rfl | ⟨target, ht, word, before, after, hword, -, -, rfl⟩
    · exact hqualifiedHead
    · have hheads : ∀ name ∈ attributeTargets,
          name.toList.head? ∈ ['S', 'a', 'm', 't', 'r', 'p'].map some := by decide
      rw [List.append_assoc]
      rw [← hfold.target target ht] at hword
      exact head_not_blank hfold target.toList (hheads target ht) hword _
  have hskip : skipTarget (readBy fold) (target ++ (qualifier ++ (name ++ (gap ++ '(' :: rest)))) =
      qualifier ++ (name ++ (gap ++ '(' :: rest)) := by
    rcases htarget with rfl | ht
    · rcases hqualifier with rfl | hq
      · exact skipTarget_of_word hfold (by simp) hname _
      · exact skipTarget_of_word hfold (by simp) hq _
    · exact skipTarget_of_isTarget hfold ht hqualifiedHead
  have hqualified : (readBy fold (qualifierWord.map fold)
      (qualifier ++ (name ++ (gap ++ '(' :: rest)))).getD
        (qualifier ++ (name ++ (gap ++ '(' :: rest))) = name ++ (gap ++ '(' :: rest) := by
    rcases hqualifier with rfl | hq
    · -- without a qualifier the name stands there, and neither word starts with the other
      have hnone : readBy fold (qualifierWord.map fold) (name ++ (gap ++ '(' :: rest)) = none := by
        rw [← Option.not_isSome_iff_eq_none]
        intro hsome
        have hother : (readBy fold (nameWord.map fold) (name ++ (gap ++ '(' :: rest))).isSome := by
          rw [readBy_append hname]
          rfl
        exact (readBy_comparable hsome hother).elim hfold.qualifier_name.1 hfold.qualifier_name.2
      rw [List.nil_append, hnone, Option.getD_none]
    · rw [readBy_append hq, Option.getD_some]
  have hparen : skipBlanks (gap ++ '(' :: rest) = '(' :: rest :=
    (skipBlanks_eq_iff (by decide)).mpr ⟨gap, hgap, rfl⟩
  simp only [Detect.behindOpener?, after?, if_true, Option.bind_some,
    skipBlanks_append hblanks htargetHead, hskip, hqualified, readBy_append hname, hparen]

theorem behindOpener?_eq_some_iff :
    behindOpener? fold opening text = some rest ↔ Opens fold opening text rest :=
  ⟨opens_of_behindOpener?, Opens.behindOpener? hfold⟩

end Reading

end InlineAudit.Detect
