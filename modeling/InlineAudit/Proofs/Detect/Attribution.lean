import InlineAudit.Proofs.Detect.Keys
import InlineAudit.Proofs.Detect.Opener

/-!
Which attribute a finding is due to. The payload of an attribute ends at the first closing
parenthesis that the closing bracket follows, and this need not be the one that balances its
opening parenthesis. If the bracket follows the balancing one, the payload is a part of the
attribute's own argument list, and what is named in the payload is named in the list. Otherwise
the payload runs on into what follows, and an attribute answers for names that are not its own.
-/

namespace InlineAudit

open Detect Text

namespace Detect

/-! ### Own argument lists -/

/-- Where a reader of an argument list stands: in code, in a string, or behind a backslash in a
string. -/
inductive Reading where
  | code
  | string
  | escape
  deriving DecidableEq, Repr

/-- Where the reader stands behind the next character. -/
def Reading.next : Reading → Char → Reading
  | .code, c => if c = '"' then .string else .code
  | .string, c => if c = '"' then .code else if c = '\\' then .escape else .string
  | .escape, _ => .string

/-- How many parentheses are open behind the next character; those in strings do not count. -/
def Reading.depth (reading : Reading) (depth : Nat) (c : Char) : Nat :=
  if reading ≠ .code then depth
  else if c = '(' then depth + 1
  else if c = ')' then depth - 1
  else depth

/-- Cuts a text at the first closing parenthesis that meets no open one: what stands before it and
what follows. -/
def cutBalanced? : Reading → (depth : Nat) → List Char → Option (List Char × List Char)
  | _, _, [] => none
  | reading, depth, c :: rest =>
    if reading = .code ∧ depth = 0 ∧ c = ')' then some ([], rest)
    else (cutBalanced? (reading.next c) (reading.depth depth c) rest).map
      fun (own, after) => (c :: own, after)

/-- The argument list whose opening parenthesis is right before a text, and what follows the
parenthesis that balances it. Parentheses in double-quoted strings do not count. -/
def ownArguments? (text : List Char) : Option (List Char × List Char) := cutBalanced? .code 0 text

theorem cutBalanced?_split {reading : Reading} {depth : Nat} {text own after : List Char}
    (h : cutBalanced? reading depth text = some (own, after)) : text = own ++ ')' :: after := by
  fun_induction cutBalanced? reading depth text generalizing own with
  | case1 => cases h
  | case2 reading depth c rest hcut =>
      obtain ⟨rfl, rfl⟩ := Prod.mk.inj (Option.some.inj h)
      rw [hcut.2.2, List.nil_append]
  | case3 reading depth c rest hcut ih =>
      obtain ⟨⟨more, after'⟩, hmore, heq⟩ := Option.map_eq_some_iff.mp h
      obtain ⟨rfl, rfl⟩ := Prod.mk.inj heq
      rw [ih hmore, List.cons_append]

example : ownArguments? "\"a)\", f(1)), Other]".toList =
    some ("\"a)\", f(1)".toList, ", Other]".toList) := by decide

/-! ### Payloads -/

/-- The payload of an attribute stops at a closing parenthesis that the bracket follows, and at no
later one than any other such parenthesis. -/
theorem attributePayload?_first {close : Char} {text payload after : List Char}
    (h : attributePayload? close text = some (payload, after)) :
    (∃ rest, text = payload ++ ')' :: rest ∧ closedBy? close rest = some after) ∧
      ∀ other rest, text = other ++ ')' :: rest → (closedBy? close rest).isSome →
        payload.length ≤ other.length := by
  fun_induction attributePayload? close text generalizing payload with
  | case1 => cases h
  | case2 c rest stop hstop =>
      obtain ⟨rfl, rfl⟩ := Prod.mk.inj (Option.some.inj h)
      obtain ⟨rfl, hclosed⟩ := Option.ite_none_right_eq_some.mp hstop
      exact ⟨⟨rest, rfl, hclosed⟩, fun _ _ _ _ => Nat.zero_le _⟩
  | case3 c rest hopen ih =>
      obtain ⟨⟨more, after'⟩, hmore, heq⟩ := Option.map_eq_some_iff.mp h
      obtain ⟨rfl, rfl⟩ := Prod.mk.inj heq
      obtain ⟨⟨tail, hrest, hclosed⟩, hfirst⟩ := ih hmore
      refine ⟨⟨tail, by rw [hrest, List.cons_append], hclosed⟩, ?_⟩
      intro other behind htext hother
      cases other with
      | nil =>
          -- the head is no parenthesis that the bracket follows
          obtain ⟨rfl, rfl⟩ := List.cons.inj htext
          rw [if_pos rfl] at hopen
          rw [hopen] at hother
          cases hother
      | cons d other =>
          have hle := hfirst other behind (List.cons.inj htext).2 hother
          exact Nat.succ_le_succ hle

/-- A payload reaches no further than any text up to a parenthesis that the bracket follows. -/
theorem attributePayload?_within {close : Char} {text payload after own behind : List Char}
    (h : attributePayload? close text = some (payload, after))
    (hown : text = own ++ ')' :: behind) (hclosed : (closedBy? close behind).isSome) :
    own = payload ∨ ∃ more, own = payload ++ ')' :: more := by
  obtain ⟨⟨rest, htext, -⟩, hfirst⟩ := attributePayload?_first h
  have hle := hfirst own behind hown hclosed
  rw [htext] at hown
  obtain ⟨tail, rfl⟩ : payload <+: own :=
    List.prefix_of_prefix_length_le ⟨_, rfl⟩ ⟨_, hown.symm⟩ hle
  rw [List.append_assoc, List.append_cancel_left_eq] at hown
  cases tail with
  | nil => exact Or.inl (List.append_nil _)
  | cons c more =>
      obtain ⟨rfl, -⟩ := List.cons.inj hown
      exact Or.inr ⟨more, rfl⟩

/-! ### What a text names -/

/-- A text names a rule, or has a word that starts with the platform's short name. -/
def NamesAnalyser (text : List Char) : Prop :=
  ruleReferences text ≠ [] ∨ seen platformWord text = true

instance (text : List Char) : Decidable (NamesAnalyser text) :=
  inferInstanceAs (Decidable (_ ∨ _))

theorem attributeVerdict_ne_none_iff {payload : List Char} :
    attributeVerdict payload ≠ none ↔ NamesAnalyser payload := by
  simp only [attributeVerdict, NamesAnalyser]
  cases hrules : ruleReferences payload with
  | cons rule rules => simp
  | nil => cases hword : seen platformWord payload <;> simp

/-- A sight is not lost when a closing parenthesis and more follow the text. -/
def KeepsSight {α : Type} (see : Recogniser α) : Prop :=
  ∀ before text more, (see before text).isSome → (see before (text ++ ')' :: more)).isSome

theorem KeepsSight.seen {α : Type} {see : Recogniser α} (hkeeps : KeepsSight see)
    {text : List Char} (h : seen see text = true) (more : List Char) :
    seen see (text ++ ')' :: more) = true := by
  rw [seen_iff] at h ⊢
  obtain ⟨offset, hlt, hsee⟩ := h
  have hbefore : charBefore (text ++ ')' :: more) offset = charBefore text offset := by
    cases offset with
    | zero => rfl
    | succ offset =>
        rw [charBefore_succ, charBefore_succ, List.getElem?_append_left (Nat.lt_of_succ_lt hlt)]
  refine ⟨offset, by simp; omega, ?_⟩
  rw [seenAt, hbefore, List.drop_append_of_le_length (by omega)]
  exact hkeeps _ _ more hsee

/-- A closing parenthesis ends a reference as well as the end of the text does. -/
theorem ReadsKeys.keepsSight {see : Recogniser String} (hsee : ReadsKeys see) :
    KeepsSight see := by
  intro before text more hsome
  have hend : ∀ c, (')' :: more).head? = some c → EndsReference c := by
    intro c hc
    obtain rfl := Option.some.inj hc
    decide +kernel
  have hsame := congrArg Option.isSome (hsee.stop before text hend)
  rw [Option.isSome_map, Option.isSome_map] at hsame
  rw [hsame]
  exact hsome

theorem platformWord_keepsSight : KeepsSight platformWord := by
  intro before text more hsee
  simp only [platformWord] at hsee ⊢
  split at hsee
  · cases hsee
  rename_i hword
  rw [if_neg hword, Option.isSome_map] at *
  obtain ⟨rest, hrest⟩ := Option.isSome_iff_exists.mp hsee
  rw [afterAnyCase?_eq_readBy, readBy_eq_some_iff] at hrest
  obtain ⟨taken, rfl, htaken⟩ := hrest
  rw [afterAnyCase?_eq_readBy, List.append_assoc, readBy_append htaken]
  rfl

/-- What a text names is named in every text that goes on from it with a closing parenthesis. -/
theorem NamesAnalyser.append {text : List Char} (h : NamesAnalyser text) (more : List Char) :
    NamesAnalyser (text ++ ')' :: more) := by
  simp only [NamesAnalyser, ne_eq, ruleReferences_eq_nil_iff, not_and_or, Bool.not_eq_false] at *
  rcases h with (h | h) | h
  · exact Or.inl (Or.inl (prefixedReference_readsKeys.keepsSight.seen h more))
  · exact Or.inl (Or.inr (bareReference_readsKeys.keepsSight.seen h more))
  · exact Or.inr (platformWord_keepsSight.seen h more)

/-! ### Attributes -/

/-- How a family of attributes is written: its brackets, and how its words are compared. -/
structure Brackets where
  directive : Directive
  fold : Char → Char
  opening : Char
  close : Char

/-- The attributes among the directives. -/
def attributes : List Brackets :=
  [⟨⟨.bracketAttribute, bracketPattern⟩, id, '[', ']'⟩,
   ⟨⟨.angleAttribute, anglePattern⟩, lower, '<', '>'⟩]

/-- The opener of an attribute stands at an offset, and `rest` follows it. -/
def Brackets.OpensAt (a : Brackets) (text : List Char) (start : Nat) (rest : List Char) : Prop :=
  Opens a.fold a.opening (text.drop start) rest

/-- The closing bracket follows the parenthesis that balances the opener's, and `own` is what
stands before it. -/
def Brackets.Closes (a : Brackets) (rest own : List Char) : Prop :=
  ∃ behind, ownArguments? rest = some (own, behind) ∧ (closedBy? a.close behind).isSome

theorem attribute_facts : ∀ a ∈ attributes, Comparison a.fold ∧ a.directive ∈ directives ∧
    a.directive.family.judge = attributeVerdict ∧
    a.directive.pattern = attributePattern a.fold a.opening a.close ∧
    a.opening ∈ ['[', '<'] ∧ a.close ∈ [']', '>'] := by
  simp only [attributes, List.forall_mem_cons, List.not_mem_nil, false_implies, implies_true,
    and_true]
  exact ⟨⟨comparison_exact, by simp [directives], rfl, rfl, by simp, by simp⟩,
    ⟨comparison_anyCase, by simp [directives], rfl, rfl, by simp, by simp⟩⟩

/-- A match of an attribute is its opener and a payload behind it. -/
theorem attribute_of_matchAt? {a : Brackets} (ha : a ∈ attributes) {text : List Char} {start : Nat}
    {found : Match} (h : a.directive.pattern.matchAt? text start = some found) :
    ∃ rest after, a.OpensAt text start rest ∧
      attributePayload? a.close rest = some (found.payload, after) := by
  obtain ⟨hfold, -, -, hpattern, hopening, hclose⟩ := attribute_facts a ha
  rw [hpattern, Pattern.matchAt?, Pattern.head?_ways,
    first_attributePattern hfold hopening hclose] at h
  obtain ⟨e, he, rfl⟩ := Option.map_eq_some_iff.mp h
  simp only [namedArguments, Option.bind_eq_some_iff, Option.map_eq_some_iff, Prod.exists] at he
  obtain ⟨inside, hinside, afterName, hname, rest, hrest, payload, after, hpayload, rfl⟩ := he
  refine ⟨rest, after, opens_of_behindOpener? ?_, hpayload⟩
  simp only [behindOpener?, hinside, hname, hrest, Option.bind_some]

/-- If the bracket follows its own argument list, an attribute counts for what that list names. -/
theorem namesAnalyser_of_match {a : Brackets} (ha : a ∈ attributes) {text rest own : List Char}
    {found : Match} (hfound : found ∈ a.directive.pattern.allMatches text)
    (haccept : a.directive.family.judge found.payload ≠ none)
    (hopens : a.OpensAt text found.start rest) (hcloses : a.Closes rest own) :
    NamesAnalyser own := by
  obtain ⟨hfold, -, hjudge, -⟩ := attribute_facts a ha
  obtain ⟨rest', after, hopens', hpayload⟩ :=
    attribute_of_matchAt? ha (Pattern.matchAt?_of_mem_allMatches hfound).2
  -- the opener of the match is the only one at its offset
  obtain rfl : rest' = rest := by
    have hread := hopens.behindOpener? hfold
    rw [hopens'.behindOpener? hfold] at hread
    exact Option.some.inj hread
  obtain ⟨behind, hown, hbracket⟩ := hcloses
  rw [hjudge, attributeVerdict_ne_none_iff] at haccept
  rcases attributePayload?_within hpayload (cutBalanced?_split hown) hbracket with
    rfl | ⟨more, rfl⟩
  · exact haccept
  · exact haccept.append more

end Detect

/-- Attributes are taken at their own word where the bracket follows their own argument list.
Every finding of an attribute family is on the line of an opener behind which the analyser is
named, up to a parenthesis that the bracket follows; if that bracket closes the opener's own list,
the list itself names the analyser. An attribute whose own list is closed like this and does not
name the analyser is never accepted. -/
theorem attribute_findings_name_analyser (content : Bytes) :
    (∀ a ∈ attributes, ∀ f ∈ findingsOfBytes content,
      f.category = a.directive.family.category →
      ∃ start rest, f.evidenceLine = lineAt (decode content) start ∧
        a.OpensAt (decode content) start rest ∧
        (∃ payload after, attributePayload? a.close rest = some (payload, after) ∧
          NamesAnalyser payload) ∧
        ∀ own, a.Closes rest own → NamesAnalyser own) ∧
    ∀ a ∈ attributes, ∀ start rest own, a.OpensAt (decode content) start rest →
      a.Closes rest own → ¬NamesAnalyser own →
      ∀ found ∈ a.directive.pattern.allMatches (decode content), found.start = start →
        a.directive.family.judge found.payload = none := by
  constructor
  · intro a ha f hf hcategory
    obtain ⟨-, hdirective, hjudge, -⟩ := attribute_facts a ha
    obtain ⟨found, hfound, verdict, hverdict, rfl⟩ :=
      Directive.mem_candidates_iff.mp (mem_candidates_of_category hdirective hf hcategory)
    have haccept : a.directive.family.judge found.payload ≠ none := by simp [hverdict]
    obtain ⟨rest, after, hopens, hpayload⟩ :=
      attribute_of_matchAt? ha (Pattern.matchAt?_of_mem_allMatches hfound).2
    refine ⟨found.start, rest, rfl, hopens, ⟨found.payload, after, hpayload, ?_⟩, ?_⟩
    · rwa [hjudge, attributeVerdict_ne_none_iff] at haccept
    · intro own hcloses
      exact namesAnalyser_of_match ha hfound haccept hopens hcloses
  · rintro a ha start rest own hopens hcloses hnot found hfound rfl
    by_contra haccept
    exact hnot (namesAnalyser_of_match ha hfound haccept hopens hcloses)

/-- A parenthesis in a string opens no list: the finding is due to the attribute's own list. An
attribute that names another tool is not accepted. -/
theorem quoted_parenthesis_names_analyser :
    (∃ start rest, Brackets.OpensAt ⟨⟨.bracketAttribute, bracketPattern⟩, id, '[', ']'⟩
        "[SuppressMessage(\"sonar (\")]".toList start rest ∧
      ∃ payload after, attributePayload? ']' rest = some (payload, after) ∧
        NamesAnalyser payload) ∧
    (Brackets.Closes ⟨⟨.bracketAttribute, bracketPattern⟩, id, '[', ']'⟩
        "\"CA1062 (\")]".toList "\"CA1062 (\"".toList ∧
      ∀ found ∈ bracketPattern.allMatches "[SuppressMessage(\"CA1062 (\")]".toList,
        found.start = 0 → attributeVerdict found.payload = none) := by
  have hcloses : Brackets.Closes ⟨⟨.bracketAttribute, bracketPattern⟩, id, '[', ']'⟩
      "\"CA1062 (\")]".toList "\"CA1062 (\"".toList :=
    ⟨"]".toList, by decide +kernel, by decide⟩
  refine ⟨?_, hcloses, ?_⟩
  · have hnamed := (attribute_findings_name_analyser
      (encode "[SuppressMessage(\"sonar (\")]".toList)).1
      ⟨⟨.bracketAttribute, bracketPattern⟩, id, '[', ']'⟩ List.mem_cons_self
      (Family.bracketAttribute.finding 1 ⟨[], true⟩) (by decide +kernel) rfl
    rw [decode_encode] at hnamed
    obtain ⟨start, rest, -, hopens, hpayload, -⟩ := hnamed
    exact ⟨start, rest, hopens, hpayload⟩
  · have hnever := (attribute_findings_name_analyser
      (encode "[SuppressMessage(\"CA1062 (\")]".toList)).2
      ⟨⟨.bracketAttribute, bracketPattern⟩, id, '[', ']'⟩ List.mem_cons_self 0
      "\"CA1062 (\")]".toList "\"CA1062 (\"".toList
    rw [decode_encode] at hnever
    exact hnever (opens_of_behindOpener? (by decide +kernel)) hcloses (by decide +kernel)

/-- An attribute that shares its brackets with another, and one on the next line. -/
def sharedBrackets : List Char :=
  "[SuppressMessage(\"CA1062\"), Other]\n[SuppressMessage(\"S1234\")]".toList

/-- The payload of the first attribute runs on to the next line: the finding stands on a line where
no attribute names the analyser in its own list. -/
theorem shared_brackets_answer_for_next_line :
    (∃ f ∈ findingsOfBytes (encode sharedBrackets),
      f.category = .bracketAttribute ∧ f.evidenceLine = 1 ∧ f.rules = ["S1234"]) ∧
    ∀ a ∈ attributes, ∀ start rest own behind, a.OpensAt sharedBrackets start rest →
      lineAt sharedBrackets start = 1 → ownArguments? rest = some (own, behind) →
      ¬NamesAnalyser own := by
  constructor
  · exact ⟨Family.bracketAttribute.finding 1 ⟨["S1234"], false⟩, by decide +kernel⟩
  · intro a ha start rest own behind hopens hline hown
    have hread := hopens.behindOpener? (attribute_facts a ha).1
    have hstart : start ∈ List.range sharedBrackets.length := by
      by_contra hbeyond
      rw [List.mem_range, Nat.not_lt] at hbeyond
      rw [List.drop_of_length_le hbeyond] at hread
      cases hread
    -- every opener of the first line, in either family, with its own list
    have hall : attributes.all (fun a => (List.range sharedBrackets.length).all fun start =>
        lineAt sharedBrackets start ≠ 1 ||
          (behindOpener? a.fold a.opening (sharedBrackets.drop start)).all fun rest =>
            (ownArguments? rest).all fun (own, _) => ¬NamesAnalyser own) = true := by
      decide +kernel
    simp only [List.all_eq_true] at hall
    have hhere := hall a ha start hstart
    rw [hline, hread, Option.all_some, hown, Option.all_some] at hhere
    simpa using hhere

end InlineAudit
