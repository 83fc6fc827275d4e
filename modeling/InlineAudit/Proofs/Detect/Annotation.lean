import InlineAudit.Proofs.Detect.Ownership
import InlineAudit.Proofs.Detect.Search
import InlineAudit.Proofs.Lists
import InlineAudit.Proofs.Text.Blank
import InlineAudit.Proofs.Text.Lines
import InlineAudit.Proofs.Text.Utf8

/-!
No accepted annotation is lost. A match takes all up to the first closing parenthesis, so an
annotation that is not matched itself stands in the payload of one that is open before it. What
the inner one has between its parentheses then ends the payload of the outer one, and a payload
that counts keeps counting when text is put before its parenthesis: the outer one is accepted too.
-/

namespace InlineAudit

open Detect Text

namespace Detect

/-- The annotations among the directives. -/
def annotations : List Directive :=
  [⟨.annotationGeneric, genericPattern⟩, ⟨.annotationVariant, variantPattern⟩]

/-- An annotation in a text: its name at `start`, white space or none, an opening parenthesis, the
payload, and at `stop - 1` the first closing parenthesis. -/
def AnnotationAt (name : String) (text : List Char) (start stop : Nat) (payload : List Char) :
    Prop :=
  ∃ blanks rest, (∀ c ∈ blanks, isBlank c = true) ∧ ')' ∉ payload ∧
    text.drop start = name.toList ++ (blanks ++ '(' :: (payload ++ ')' :: rest)) ∧
    stop + rest.length = text.length

/-- An offset lies in the payload of an annotation's match, which stops right behind its closing
parenthesis, and no parenthesis is closed between the two. -/
structure Swallows (text : List Char) (outer : Match) (offset : Nat) : Prop where
  before : outer.start < offset
  unclosed : ')' ∉ (text.drop outer.start).take (offset - outer.start)
  payload_start : outer.stop - 1 - outer.payload.length ≤ offset
  payload_stop : offset < outer.stop - 1

theorem mem_directives_of_mem_annotations {d : Directive} (hd : d ∈ annotations) :
    d ∈ directives := by
  simp only [annotations, List.mem_cons, List.not_mem_nil, or_false] at hd
  rcases hd with rfl | rfl <;> simp [directives]

/-- What the annotations have in common. The at sign of a name is only at its head. -/
theorem annotation_facts {d : Directive} (hd : d ∈ annotations) :
    d.family.shape = annotationShape d.family.label ∧ d.family.judge = annotationVerdict ∧
      ∃ letters, d.family.label.toList = '@' :: letters ∧ '@' ∉ letters ∧ ')' ∉ letters := by
  simp only [annotations, List.mem_cons, List.not_mem_nil, or_false] at hd
  rcases hd with rfl | rfl
  · exact ⟨rfl, rfl, "SuppressWarnings".toList, by decide⟩
  · exact ⟨rfl, rfl, "Suppress".toList, by decide⟩

theorem annotationShape_eq_some_iff {name : String} {before : Option Char} {text : List Char}
    {payload : List Char} {size : Nat} :
    annotationShape name before text = some (payload, size) ↔
      ∃ blanks rest, (∀ c ∈ blanks, isBlank c = true) ∧ ')' ∉ payload ∧
        text = name.toList ++ (blanks ++ '(' :: (payload ++ ')' :: rest)) ∧
        size = text.length - rest.length := by
  simp only [annotationShape, Option.bind_eq_bind, Option.bind_eq_some_iff, Option.pure_def,
    Option.some.injEq, Prod.mk.injEq, Prod.exists, after?_eq_some_iff, cutAt?_eq_some_iff,
    List.singleton_append, skipBlanks_eq_iff (show isBlank '(' = false by decide)]
  constructor
  · rintro ⟨_, rfl, _, ⟨blanks, hblanks, rfl⟩, _, rest, ⟨hpayload, rfl⟩, rfl, rfl⟩
    exact ⟨blanks, rest, hblanks, hpayload, rfl, rfl⟩
  · rintro ⟨blanks, rest, hblanks, hpayload, rfl, rfl⟩
    exact ⟨_, rfl, _, ⟨blanks, hblanks, rfl⟩, payload, rest, ⟨hpayload, rfl⟩, rfl, rfl⟩

theorem AnnotationAt.lt_length {name : String} {text payload : List Char} {start stop : Nat}
    (h : AnnotationAt name text start stop payload) : start < text.length := by
  obtain ⟨blanks, rest, _, _, htext, _⟩ := h
  have hlength := congrArg List.length htext
  simp only [List.length_drop, List.length_append, List.length_cons] at hlength
  omega

/-- The matches of an annotation's pattern are the annotations of its name. -/
theorem annotation_matchAt?_iff {d : Directive} (hd : d ∈ annotations) {text payload : List Char}
    {start stop : Nat} (hle : start ≤ text.length) :
    d.pattern.matchAt? text start = some ⟨start, stop, payload⟩ ↔
      AnnotationAt d.family.label text start stop payload := by
  have hseen := directive_seenBy d (mem_directives_of_mem_annotations hd)
  rw [hseen.matchAt?_eq none text start hle, (annotation_facts hd).1, Option.map_eq_some_iff]
  simp only [Prod.exists, annotationShape_eq_some_iff, Match.mk.injEq, true_and]
  constructor
  · rintro ⟨_, size, ⟨blanks, rest, hblanks, hpayload, htext, rfl⟩, rfl, rfl⟩
    have hlength := congrArg List.length htext
    simp only [List.length_drop, List.length_append, List.length_cons] at hlength
    refine ⟨blanks, rest, hblanks, hpayload, htext, ?_⟩
    rw [List.length_drop]
    omega
  · rintro ⟨blanks, rest, hblanks, hpayload, htext, hstop⟩
    have hlength := congrArg List.length htext
    simp only [List.length_drop, List.length_append, List.length_cons] at hlength
    refine ⟨payload, stop - start, ⟨blanks, rest, hblanks, hpayload, htext, ?_⟩, by omega, rfl⟩
    rw [List.length_drop]
    omega

/-- The opener of an annotation has its at sign at the head and closes no parenthesis. -/
theorem AnnotationAt.opener {name : String} {letters text payload : List Char} {start stop : Nat}
    (h : AnnotationAt name text start stop payload) (hname : name.toList = '@' :: letters)
    (hat : '@' ∉ letters) (hclose : ')' ∉ letters) :
    ∃ opener rest, '@' ∉ opener ∧ ')' ∉ opener ∧ ')' ∉ payload ∧
      text.drop start = '@' :: (opener ++ '(' :: (payload ++ ')' :: rest)) ∧
      stop + rest.length = text.length := by
  obtain ⟨blanks, rest, hblanks, hpayload, htext, hstop⟩ := h
  have hnot : ∀ {c}, isBlank c = false → c ∉ blanks := by
    intro c hc hmem
    rw [hblanks c hmem] at hc
    cases hc
  refine ⟨letters ++ blanks, rest, ?_, ?_, hpayload, ?_, hstop⟩
  · simp [hat, hnot (show isBlank '@' = false by decide)]
  · simp [hclose, hnot (show isBlank ')' = false by decide)]
  · rw [htext, hname]
    simp

/-- A text goes on with a character behind all of a lead that lacks it. -/
theorem drop_of_not_mem {c : Char} {lead tail more : List Char} {i : Nat} (hc : c ∉ lead)
    (h : (lead ++ tail).drop i = c :: more) :
    ∃ j, i = lead.length + j ∧ tail.drop j = c :: more := by
  by_cases hi : i < lead.length
  · rw [List.drop_append_of_le_length (Nat.le_of_lt hi), List.drop_eq_getElem_cons hi] at h
    exact absurd ((List.cons.inj h).1 ▸ List.getElem_mem hi) hc
  · refine ⟨i - lead.length, by omega, ?_⟩
    rwa [List.drop_append, List.drop_of_length_le (by omega), List.nil_append] at h

/-- An annotation that starts within another one of its name is swallowed by it, and the payload of
the outer one ends with the payload of the inner one. -/
theorem AnnotationAt.nested {name : String} {letters text inner : List Char} {outer : Match}
    {start stop : Nat} (hname : name.toList = '@' :: letters) (hat : '@' ∉ letters)
    (hclose : ')' ∉ letters) (houter : AnnotationAt name text outer.start outer.stop outer.payload)
    (hinner : AnnotationAt name text start stop inner) (hlt : outer.start < start)
    (hin : start < outer.stop) :
    Swallows text outer start ∧ ∃ front, outer.payload = front ++ '(' :: inner := by
  obtain ⟨opener, rest, hatsign, hopener, hpayload, htext, hstop⟩ :=
    houter.opener hname hat hclose
  obtain ⟨opener', rest', -, hopener', hpayload', htext', -⟩ := hinner.opener hname hat hclose
  have hlength := congrArg List.length htext
  simp only [List.length_drop, List.length_append, List.length_cons] at hlength
  -- the inner at sign is past the outer opener, so the inner annotation starts in the payload
  obtain ⟨i, rfl⟩ : ∃ i, start = outer.start + (i + 1) := ⟨start - outer.start - 1, by omega⟩
  have hdrop : ((opener ++ ['(']) ++ (outer.payload ++ ')' :: rest)).drop i =
      '@' :: (opener' ++ '(' :: (inner ++ ')' :: rest')) := by
    rw [← htext', ← List.drop_drop, htext]
    simp
  obtain ⟨j, rfl, hj⟩ := drop_of_not_mem (by simp [hatsign]) hdrop
  rw [List.length_append, List.length_singleton] at hin hlt ⊢
  rw [List.drop_append_of_le_length (by omega)] at hj
  -- both payloads end at the same parenthesis
  have hsame : outer.payload.drop j ++ ')' :: rest =
      ('@' :: (opener' ++ '(' :: inner)) ++ ')' :: rest' := by
    rw [hj]
    simp
  obtain ⟨hinside, -⟩ := eq_of_cut_eq (fun h => hpayload (List.mem_of_mem_drop h))
    (by simp [hopener', hpayload']) hsame
  have hpos := congrArg List.length hinside
  have hbetween : text.drop outer.start = ('@' :: (opener ++ '(' :: outer.payload.take j)) ++
      (outer.payload.drop j ++ ')' :: rest) := by
    rw [htext, List.cons_append, List.append_assoc, List.cons_append,
      ← List.append_assoc _ _ (_ :: rest), List.take_append_drop]
  have htaken : ')' ∉ outer.payload.take j := fun h => hpayload (List.mem_of_mem_take h)
  simp only [List.length_drop, List.length_append, List.length_cons] at hpos
  refine ⟨⟨hlt, ?_, by omega, by omega⟩, outer.payload.take j ++ '@' :: opener', ?_⟩
  · rw [hbetween, List.take_left' (by simp; omega)]
    simp [hopener, htaken]
  · rw [List.append_assoc, List.cons_append, ← hinside, List.take_append_drop]

/-! ### The judgement on longer payloads -/

/-- A text has rule references just if one of either kind is seen in it. -/
theorem ruleReferences_eq_nil_iff {text : List Char} :
    ruleReferences text = [] ↔
      seen prefixedReference text = false ∧ seen bareReference text = false := by
  have hprefixed : (sights prefixedReference text).map (·.2) = [] ↔
      seen prefixedReference text = false := by rw [List.map_eq_nil_iff, sights_eq_nil_iff]
  rw [← hprefixed, ruleReferences]
  split
  · rename_i hnone
    rw [eraseDups_eq_nil_iff, List.map_eq_nil_iff, sights_eq_nil_iff]
    simp [hnone]
  · rename_i found hsome
    rw [eraseDups_eq_nil_iff]
    exact ⟨fun h => absurd h hsome, fun h => absurd h.1 hsome⟩

theorem annotationVerdict_ne_none_iff {payload : List Char} :
    annotationVerdict payload ≠ none ↔ seen prefixedReference payload = true ∨
      seen bareReference payload = true ∨ seen quotedAll payload = true := by
  simp only [annotationVerdict]
  split
  · rename_i hnone
    rw [Bool.and_eq_true, List.isEmpty_iff, ruleReferences_eq_nil_iff, Bool.not_eq_true'] at hnone
    simp [hnone]
  · rename_i hsome
    rw [Bool.and_eq_true, List.isEmpty_iff, ruleReferences_eq_nil_iff, Bool.not_eq_true'] at hsome
    refine iff_of_true (by simp) ?_
    grind

/-- An opening parenthesis is as good as the start of a text. -/
theorem seen_behind_parenthesis {α : Type} {see : Recogniser α} {text : List Char}
    (hsee : ∀ text, see (some '(') text = see none text) (h : seen see text = true)
    (front : List Char) : seen see (front ++ '(' :: text) = true := by
  apply seenFrom_append
  cases text with
  | nil => cases h
  | cons c rest =>
      rw [seenFrom, hsee]
      exact h

/-- What counts still counts at the end of a longer payload, behind a parenthesis. -/
theorem annotationVerdict_mono {payload : List Char} (h : annotationVerdict payload ≠ none)
    (front : List Char) : annotationVerdict (front ++ '(' :: payload) ≠ none := by
  rw [annotationVerdict_ne_none_iff] at h ⊢
  have hword : neighbourIsWord (some '(') = neighbourIsWord none := by decide
  rcases h with h | h | h
  · left
    exact seen_behind_parenthesis (fun text => by simp only [prefixedReference, hword]) h front
  · right; left
    exact seen_behind_parenthesis (fun text => by simp only [bareReference, hword]) h front
  · right; right
    exact seen_behind_parenthesis (fun text => rfl) h front

end Detect

/-- The line of an offset has a finding. -/
def Reported (content : Bytes) (offset : Nat) : Prop :=
  ∃ f ∈ findingsOfBytes content, f.evidenceLine = lineAt (decode content) offset

instance (content : Bytes) (offset : Nat) : Decidable (Reported content offset) :=
  inferInstanceAs (Decidable (∃ f ∈ _, _))

/-- No accepted annotation is silently lost: its line has a finding, or it stands in the payload of
an earlier match of its family that is not closed before it, and the line of that one has. -/
theorem accepted_annotation_reported (content : Bytes) (d : Directive) (hd : d ∈ annotations)
    (offset stop : Nat) (payload : List Char)
    (hat : AnnotationAt d.family.label (decode content) offset stop payload)
    (haccept : annotationVerdict payload ≠ none) :
    Reported content offset ∨ ∃ outer ∈ d.pattern.allMatches (decode content),
      Swallows (decode content) outer offset ∧ Reported content outer.start := by
  obtain ⟨-, hjudge, letters, hname, hatsign, hclose⟩ := annotation_facts hd
  have hdirective := mem_directives_of_mem_annotations hd
  have hle := Nat.le_of_lt hat.lt_length
  have hmatch : d.pattern.matchAt? (decode content) offset = some ⟨offset, stop, payload⟩ :=
    (annotation_matchAt?_iff hd hle).mpr hat
  rcases Pattern.allMatches_covers ⟨offset, stop, payload⟩ hle hmatch with
    htaken | ⟨outer, houter, hlt, hin⟩
  · left
    exact exists_finding_of_match hdirective htaken (by rw [hjudge]; exact haccept)
  · right
    obtain ⟨houter_le, houter_match⟩ := Pattern.matchAt?_of_mem_allMatches houter
    have houter_at := (annotation_matchAt?_iff hd houter_le).mp houter_match
    obtain ⟨hswallows, front, hfront⟩ := houter_at.nested hname hatsign hclose hat hlt hin
    have houter_accept : d.family.judge outer.payload ≠ none := by
      rw [hjudge, hfront]
      exact annotationVerdict_mono haccept front
    exact ⟨outer, houter, hswallows, exists_finding_of_match hdirective houter houter_accept⟩

/-- A blanket annotation behind one that is never closed: its own line has no finding. -/
theorem swallowed_annotation_reported :
    AnnotationAt "@SuppressWarnings" "@SuppressWarnings(\n@SuppressWarnings(\"all\")".toList 19 43
      "\"all\"".toList ∧
    annotationVerdict "\"all\"".toList ≠ none ∧
    ∃ outer ∈ genericPattern.allMatches "@SuppressWarnings(\n@SuppressWarnings(\"all\")".toList,
      Swallows "@SuppressWarnings(\n@SuppressWarnings(\"all\")".toList outer 19 ∧
      Reported (encode "@SuppressWarnings(\n@SuppressWarnings(\"all\")".toList) outer.start := by
  have hat : AnnotationAt "@SuppressWarnings"
      "@SuppressWarnings(\n@SuppressWarnings(\"all\")".toList 19 43 "\"all\"".toList :=
    ⟨[], [], List.forall_mem_nil _, by decide⟩
  have haccept : annotationVerdict "\"all\"".toList ≠ none := by decide
  have hunreported :
      ¬Reported (encode "@SuppressWarnings(\n@SuppressWarnings(\"all\")".toList) 19 := by
    decide +kernel
  have hreported := accepted_annotation_reported
    (encode "@SuppressWarnings(\n@SuppressWarnings(\"all\")".toList)
    ⟨.annotationGeneric, genericPattern⟩ List.mem_cons_self 19 43 "\"all\"".toList
    (by rw [decode_encode]; exact hat) haccept
  rw [decode_encode] at hreported
  exact ⟨hat, haccept, hreported.resolve_left hunreported⟩

end InlineAudit
