import InlineAudit.Proofs.Detect.Annotation
import InlineAudit.Proofs.Detect.MarkerLine

/-!
How much of an annotation's arguments is looked at. A payload ends at the first closing
parenthesis, be it in a string or not, so arguments without a parenthesis are judged as a whole
and all others by what stands before their first one.
-/

namespace InlineAudit

open Detect Text

namespace Detect

/-- The quoted word all stands in a text, in any case. -/
def HasQuotedAll (text : List Char) : Prop :=
  ∃ before word after, text = before ++ (word ++ after) ∧ word.map lower = "\"all\"".toList

theorem seen_quotedAll_iff {text : List Char} :
    seen quotedAll text = true ↔ HasQuotedAll text := by
  simp only [seen_iff, seenAt, quotedAll, Option.isSome_map, afterAnyCase?_eq_readBy,
    Option.isSome_iff_exists, readBy_eq_some_iff]
  constructor
  · rintro ⟨offset, -, rest, word, hdrop, hword⟩
    exact ⟨text.take offset, word, rest, by rw [← hdrop, List.take_append_drop], hword⟩
  · rintro ⟨before, word, after, rfl, hword⟩
    have hpos : word.length = 5 := by
      rw [← List.length_map lower, hword]
      rfl
    refine ⟨before.length, ?_, after, word, List.drop_left, hword⟩
    simp only [List.length_append, hpos]
    omega

/-- What an annotation that counts is found to say. -/
theorem annotationVerdict_eq_some {payload : List Char} {verdict : Verdict}
    (h : annotationVerdict payload = some verdict) :
    verdict.rules = ruleReferences payload ∧
      (verdict.blanket = true ↔ HasQuotedAll payload) := by
  simp only [annotationVerdict, Option.ite_none_left_eq_some] at h
  obtain ⟨-, h⟩ := h
  obtain rfl := Option.some.inj h
  exact ⟨rfl, seen_quotedAll_iff⟩

/-- The name of the annotation that has rules or words for its arguments. -/
def annotationName : List Char := "@SuppressWarnings".toList

/-- A line with an annotation and nothing else. -/
def annotated (arguments : Bytes) : Bytes :=
  encode (annotationName ++ ['(']) ++ (arguments ++ encode [')'])

theorem decode_annotated (arguments : Bytes) :
    decode (annotated arguments) = annotationName ++ '(' :: (decode arguments ++ [')']) := by
  have hclose : encode [')'] = [0x29] := by decide
  rw [annotated, decode_encode_append, hclose, decode_append (by decide)]
  simp
  rfl

theorem lineFeed_not_mem_annotated {arguments : Bytes} (h : 0x0A ∉ arguments) :
    0x0A ∉ annotated arguments := by
  have hname : 0x0A ∉ encode (annotationName ++ ['(']) := by decide
  have hclose : 0x0A ∉ encode [')'] := by decide
  simp [annotated, h, hname, hclose]

/-- What is looked at of an annotation's arguments. -/
def inspected (arguments : List Char) : List Char := arguments.takeWhile (· ≠ ')')

theorem not_mem_inspected (arguments : List Char) : ')' ∉ inspected arguments := by
  intro hmem
  simpa using List.all_eq_true.mp List.all_takeWhile _ hmem

/-- The first closing parenthesis is right behind what is looked at. -/
theorem inspected_split (arguments : List Char) :
    ∃ rest, arguments ++ [')'] = inspected arguments ++ ')' :: rest ∧
      (')' ∉ arguments → rest = []) := by
  induction arguments with
  | nil => exact ⟨[], rfl, fun _ => rfl⟩
  | cons c arguments ih =>
      by_cases hc : c = ')'
      · refine ⟨arguments ++ [')'], ?_, fun hnot => absurd (by simp [hc]) hnot⟩
        simp [inspected, hc]
      · obtain ⟨rest, hsplit, hlast⟩ := ih
        refine ⟨rest, ?_, fun hnot => hlast (List.not_mem_of_not_mem_cons hnot)⟩
        rw [inspected, List.takeWhile_cons_of_pos (by simpa using hc), List.cons_append, hsplit]
        rfl

theorem inspected_of_not_mem {arguments : List Char} (h : ')' ∉ arguments) :
    inspected arguments = arguments := by
  obtain ⟨rest, hsplit, hlast⟩ := inspected_split arguments
  rw [hlast h] at hsplit
  exact (List.append_cancel_right hsplit).symm

/-- The pass over annotations of this name. -/
def genericDirective : Directive := ⟨.annotationGeneric, genericPattern⟩

/-- The first match is the annotation itself. -/
theorem annotated_first_match {text arguments : List Char}
    (htext : text = annotationName ++ '(' :: (arguments ++ [')'])) :
    ∃ stop, ⟨0, stop, inspected arguments⟩ ∈ genericPattern.allMatches text ∧
      (')' ∉ arguments → stop = text.length) := by
  obtain ⟨rest, hsplit, hlast⟩ := inspected_split arguments
  have hat : AnnotationAt "@SuppressWarnings" text 0 (text.length - rest.length)
      (inspected arguments) := by
    refine ⟨[], rest, List.forall_mem_nil _, not_mem_inspected arguments, ?_, ?_⟩
    · rw [List.drop_zero, htext, hsplit]
      rfl
    · rw [htext, hsplit]
      simp only [List.length_append, List.length_cons]
      omega
  have hmatch := (annotation_matchAt?_iff (d := genericDirective) List.mem_cons_self
    (Nat.zero_le _)).mpr hat
  refine ⟨text.length - rest.length, ?_, fun hnot => by rw [hlast hnot]; rfl⟩
  rcases Pattern.allMatches_covers ⟨0, text.length - rest.length, inspected arguments⟩
    (Nat.zero_le _) hmatch with hmem | ⟨other, -, hlt, -⟩
  · exact hmem
  · exact absurd hlt (Nat.not_lt_zero _)

/-- A second name behind the opener of the first is a name in the arguments. -/
theorem annotationName_in_arguments {arguments tail : List Char} {start : Nat} (hstart : start ≠ 0)
    (htail : tail ≠ [])
    (h : (annotationName ++ '(' :: (arguments ++ [')'])).drop start = annotationName ++ tail) :
    annotationName <:+: arguments := by
  obtain ⟨start, rfl⟩ := Nat.exists_eq_succ_of_ne_zero hstart
  have hname : annotationName = '@' :: annotationName.tail := by decide
  -- the at sign is not among the other characters of the opener
  have hdrop : ((annotationName.tail ++ ['(']) ++ (arguments ++ [')'])).drop start =
      '@' :: (annotationName.tail ++ tail) := by
    rw [hname, List.cons_append, List.drop_succ_cons] at h
    rw [List.append_assoc, List.singleton_append, h, List.cons_append]
  obtain ⟨j, -, hj⟩ := drop_of_not_mem (by decide) hdrop
  rw [← List.cons_append, ← hname] at hj
  have hlength := congrArg List.length hj
  have htail := List.length_pos_of_ne_nil htail
  simp only [List.length_drop, List.length_append, List.length_singleton] at hlength
  have hpos : 0 < annotationName.length := by decide
  rw [List.drop_append_of_le_length (by omega)] at hj
  have hlead : annotationName <+: arguments.drop j := by
    refine List.prefix_of_prefix_length_le (List.prefix_append _ tail) ⟨[')'], hj⟩ ?_
    rw [List.length_drop]
    omega
  exact hlead.isInfix.trans (List.drop_suffix j arguments).isInfix

/-- No further match: it would start inside the first one, or with the name in the arguments. -/
theorem annotated_only_match {text arguments : List Char}
    (htext : text = annotationName ++ '(' :: (arguments ++ [')']))
    (honly : ')' ∉ arguments ∨ ¬annotationName <:+: arguments) {found : Match}
    (hfound : found ∈ genericPattern.allMatches text) :
    found.start = 0 ∧ found.payload = inspected arguments := by
  obtain ⟨stop, hfirst, hstop⟩ := annotated_first_match htext
  obtain ⟨hle, hmatch⟩ := Pattern.matchAt?_of_mem_allMatches hfound
  have hat : AnnotationAt "@SuppressWarnings" text found.start found.stop found.payload :=
    (annotation_matchAt?_iff (d := genericDirective) List.mem_cons_self hle).mp hmatch
  have hzero : found.start = 0 := by
    by_contra hpos
    rcases honly with hnone | hname
    · have hafter := Pattern.allMatches_apart hfirst hfound (Nat.pos_of_ne_zero hpos)
      rw [hstop hnone] at hafter
      exact absurd hat.lt_length (Nat.not_lt.mpr hafter)
    · obtain ⟨blanks, rest, -, -, hdrop, -⟩ := hat
      rw [htext] at hdrop
      exact hname (annotationName_in_arguments hpos (by simp) hdrop)
  have hsame := (Pattern.matchAt?_of_mem_allMatches hfirst).2
  rw [hzero, hsame] at hmatch
  exact ⟨hzero, congrArg Match.payload (Option.some.inj hmatch).symm⟩

end Detect

/-- Arguments without a marker make no marker line. -/
theorem annotated_no_marker {arguments : Bytes} (hfeed : 0x0A ∉ arguments)
    (hmarker : ¬∃ offset, MarkerAt (decode arguments) offset) :
    markersFrom (byteLines (annotated arguments)).length 1 (byteLines (annotated arguments)) =
      [] := by
  have hlines : byteLines (annotated arguments) = [annotated arguments] :=
    splitAt_of_not_mem (lineFeed_not_mem_annotated hfeed)
  have hnot : ¬MarkerMatches (decode (stripLiteralBytes (annotated arguments))) := by
    rw [markerMatches_iff, decode_stripLiteralBytes]
    rintro ⟨offset, hat⟩
    have hat : ∃ offset, MarkerAt (decode (annotated arguments)) offset :=
      ⟨offset, (markerAt_stripLiterals_iff.mp hat).2⟩
    rw [decode_annotated, exists_markerAt_append_iff (by decide),
      exists_markerAt_append_iff (by decide)] at hat
    rcases hat with hname | harguments | hnil
    · exact absurd (seen_markerWord.mpr hname) (by decide)
    · exact hmarker harguments
    · exact not_exists_markerAt_nil hnil
  rw [hlines, markersFrom_cons, if_neg hnot]
  rfl

/-- An annotation on a line of its own is judged by its arguments up to the first closing
parenthesis. So if there is none among the arguments, all of them are inspected: the annotation is
found just if they count, with the rules they name, and as a blanket one just if they hold a
quoted all. -/
theorem annotation_inspected (arguments : Bytes) (hfeed : 0x0A ∉ arguments)
    (hmarker : ¬∃ offset, MarkerAt (decode arguments) offset)
    (honly : ')' ∉ decode arguments ∨ ¬annotationName <:+: decode arguments) :
    ((∃ f ∈ findingsOfBytes (annotated arguments),
        f.category = .annotationGeneric ∧ f.evidenceLine = 1) ↔
      annotationVerdict (inspected (decode arguments)) ≠ none) ∧
    (∀ f ∈ findingsOfBytes (annotated arguments), f.category = .annotationGeneric →
      f.evidenceLine = 1 ∧ f.rules = ruleReferences (inspected (decode arguments)) ∧
      (f.blanket = true ↔ HasQuotedAll (inspected (decode arguments)))) ∧
    (')' ∉ decode arguments → inspected (decode arguments) = decode arguments) := by
  have htext := decode_annotated arguments
  have hdirective : genericDirective ∈ directives := List.mem_cons_self
  -- a finding of the family is what the arguments were found to say
  have hverdict : ∀ f ∈ findingsOfBytes (annotated arguments), f.category = .annotationGeneric →
      ∃ verdict, annotationVerdict (inspected (decode arguments)) = some verdict ∧
        f = Family.annotationGeneric.finding 1 verdict := by
    intro f hf hcategory
    obtain ⟨found, hfound, verdict, hjudge, rfl⟩ :=
      Directive.mem_candidates_iff.mp (mem_candidates_of_category hdirective hf hcategory)
    obtain ⟨hstart, hpayload⟩ := annotated_only_match htext honly hfound
    rw [hpayload] at hjudge
    rw [hstart]
    exact ⟨verdict, hjudge, rfl⟩
  refine ⟨⟨?_, ?_⟩, ?_, inspected_of_not_mem⟩
  · rintro ⟨f, hf, hcategory, -⟩
    obtain ⟨verdict, hjudge, -⟩ := hverdict f hf hcategory
    simp [hjudge]
  · intro haccept
    obtain ⟨verdict, hjudge⟩ := Option.ne_none_iff_exists'.mp haccept
    obtain ⟨stop, hfirst, -⟩ := annotated_first_match htext
    have hcandidate : Family.annotationGeneric.finding 1 verdict ∈
        genericDirective.candidates (decode (annotated arguments)) :=
      Directive.mem_candidates_iff.mpr ⟨_, hfirst, verdict, hjudge, rfl⟩
    have hsplit : passes (annotated arguments) = [(.bareMarker, [])] ++
        (.annotationGeneric, genericDirective.candidates (decode (annotated arguments))) ::
          directives.tail.map fun d =>
            (d.family.category, d.candidates (decode (annotated arguments))) := by
      rw [passes, annotated_no_marker hfeed hmarker]
      rfl
    obtain ⟨f, hf, hmem, hline⟩ := exists_finding_of_first_pass hsplit hcandidate (by simp)
    obtain ⟨_, _, _, _, rfl⟩ := Directive.mem_candidates_iff.mp hmem
    exact ⟨_, hf, rfl, hline⟩
  · intro f hf hcategory
    obtain ⟨verdict, hjudge, rfl⟩ := hverdict f hf hcategory
    exact ⟨rfl, annotationVerdict_eq_some hjudge⟩

/-- A blanket annotation with a rule: all of its arguments are inspected. -/
theorem plain_arguments_inspected :
    0x0A ∉ encode "\"ALL\", \"S106\"".toList ∧
    (¬∃ offset, MarkerAt "\"ALL\", \"S106\"".toList offset) ∧
    ')' ∉ "\"ALL\", \"S106\"".toList ∧
    ∃ f ∈ findingsOfBytes (annotated (encode "\"ALL\", \"S106\"".toList)),
      f.category = .annotationGeneric ∧ f.rules = ["S106"] ∧ f.blanket = true := by
  have hfeed : 0x0A ∉ encode "\"ALL\", \"S106\"".toList := by decide
  have hmarker : ¬∃ offset, MarkerAt "\"ALL\", \"S106\"".toList offset := by
    rw [← seen_markerWord]
    decide
  have hopen : ')' ∉ "\"ALL\", \"S106\"".toList := by decide
  refine ⟨hfeed, hmarker, hopen, ?_⟩
  obtain ⟨hfound, hsays, hall⟩ := annotation_inspected (encode "\"ALL\", \"S106\"".toList) hfeed
    (by rwa [decode_encode]) (Or.inl (by rwa [decode_encode]))
  rw [decode_encode] at hfound hsays hall
  rw [hall hopen] at hfound hsays
  obtain ⟨f, hf, hcategory, -⟩ := hfound.mpr (by decide)
  obtain ⟨-, hrules, hblanket⟩ := hsays f hf hcategory
  refine ⟨f, hf, hcategory, hrules.trans (by decide), hblanket.mpr ?_⟩
  exact seen_quotedAll_iff.mp (by decide)

/-- Arguments whose double-quoted strings are all closed, and whose closing parentheses all stand in
such strings. -/
inductive ParenthesesQuoted : List Char → Prop
  | nil : ParenthesesQuoted []
  | plain {c : Char} {rest : List Char} (hquote : c ≠ '"') (hclose : c ≠ ')')
      (hrest : ParenthesesQuoted rest) : ParenthesesQuoted (c :: rest)
  | string {body rest : List Char} (hbody : Body '"' body) (hrest : ParenthesesQuoted rest) :
      ParenthesesQuoted ('"' :: (body ++ '"' :: rest))

/-- A parenthesis in a string ends the inspection: the rule behind it is not found. -/
theorem quoted_parenthesis_hides_rule :
    ParenthesesQuoted "\"a)\", \"S106\"".toList ∧
    0x0A ∉ encode "\"a)\", \"S106\"".toList ∧
    (¬∃ offset, MarkerAt "\"a)\", \"S106\"".toList offset) ∧
    annotationVerdict "\"a)\", \"S106\"".toList = some ⟨["S106"], false⟩ ∧
    findingsOfBytes (annotated (encode "\"a)\", \"S106\"".toList)) = [] := by
  refine ⟨?_, by decide, ?_, by decide, by decide +kernel⟩
  · have hrule : Body '"' "S106".toList :=
      .plain (by decide) (by decide) <| .plain (by decide) (by decide) <|
        .plain (by decide) (by decide) <| .plain (by decide) (by decide) .nil
    have hfirst : Body '"' "a)".toList :=
      .plain (by decide) (by decide) <| .plain (by decide) (by decide) .nil
    exact .string hfirst <| .plain (by decide) (by decide) <| .plain (by decide) (by decide) <|
      .string hrule .nil
  · rw [← seen_markerWord]
    decide

end InlineAudit
