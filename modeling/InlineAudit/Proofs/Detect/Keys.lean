import InlineAudit.Proofs.Detect.Reference
import InlineAudit.Proofs.Lists

/-!
Rule keys. What is extracted from a text are keys of one kind, each once and without white space.
The other way round, a list of keys that is written into a sentence is read back as it stands: a
parenthesis, a comma or a full stop belongs to no reference, so none is read across it, and where
there are no digits there is none to be read.
-/

namespace InlineAudit

open Detect Text

namespace Detect

/-! ### Rule keys -/

/-- The digits of a rule key. -/
def IsRuleNumber (digits : List Char) : Prop := 3 ≤ digits.length ∧ ∀ c ∈ digits, isDigit c = true

/-- A rule key behind the prefix of a language. -/
def IsPrefixedKey (rule : String) : Prop :=
  ∃ language ∈ rulePrefixes, ∃ digits, IsRuleNumber digits ∧
    rule = language ++ ":S" ++ String.ofList digits

/-- A rule key alone. -/
def IsBareKey (rule : String) : Prop :=
  ∃ digits, IsRuleNumber digits ∧ rule = "S" ++ String.ofList digits

theorem isPrefixedKey_of_mem {text : List Char} {rule : String}
    (h : rule ∈ everyValue prefixedReference none text) : IsPrefixedKey rule := by
  rw [← prefixedReference_apart.map_sights, List.mem_map] at h
  obtain ⟨⟨offset, key⟩, hmem, rfl⟩ := h
  obtain ⟨-, language, hlanguage, digits, rest, ⟨-, -, -, -, -, hdigits⟩, hkey⟩ :=
    ((sights_prefixedReference text).mem_iff offset key).mp hmem
  exact ⟨language, hlanguage, digits, ⟨hdigits.enough, hdigits.digit⟩, hkey⟩

theorem isBareKey_of_mem {text : List Char} {rule : String}
    (h : rule ∈ everyValue bareReference none text) : IsBareKey rule := by
  rw [← bareReference_apart.map_sights, List.mem_map] at h
  obtain ⟨⟨offset, key⟩, hmem, rfl⟩ := h
  obtain ⟨-, digits, rest, -, hdigits, -, hkey⟩ :=
    ((sights_bareReference text).mem_iff offset key).mp hmem
  exact ⟨digits, ⟨hdigits.enough, hdigits.digit⟩, hkey⟩

theorem ruleReferences_keys (text : List Char) :
    (∀ rule ∈ ruleReferences text, IsPrefixedKey rule) ∨
      ∀ rule ∈ ruleReferences text, IsBareKey rule := by
  rw [ruleReferences_eq_everyValue]
  split
  · exact Or.inr fun rule hrule => isBareKey_of_mem (List.mem_eraseDups.mp hrule)
  · exact Or.inl fun rule hrule => isPrefixedKey_of_mem (List.mem_eraseDups.mp hrule)

theorem ruleReferences_nodup (text : List Char) : (ruleReferences text).Nodup := by
  rw [ruleReferences]
  split
  · exact nodup_eraseDups _
  · exact nodup_eraseDups _

theorem IsBareKey.no_blank {rule : String} (h : IsBareKey rule) :
    ∀ c ∈ rule.toList, isBlank c = false := by
  obtain ⟨digits, ⟨-, hdigit⟩, rfl⟩ := h
  simp only [String.toList_append, String.toList_ofList, List.mem_append]
  rintro c (hc | hc)
  · obtain rfl := List.mem_singleton.mp hc
    decide
  · exact (digit_facts (hdigit c hc)).2.1

theorem IsPrefixedKey.no_blank {rule : String} (h : IsPrefixedKey rule) :
    ∀ c ∈ rule.toList, isBlank c = false := by
  obtain ⟨language, hlanguage, digits, ⟨-, hdigit⟩, rfl⟩ := h
  have hsigns : ∀ c ∈ ":S".toList, isBlank c = false := forall_mem_of_all (by decide)
  simp only [String.toList_append, String.toList_ofList, List.mem_append]
  rintro c ((hc | hc) | hc)
  · exact (letter_facts ((prefix_letters hlanguage).2 c hc)).2.1
  · exact hsigns c hc
  · exact (digit_facts (hdigit c hc)).2.1

/-! ### Where a reference ends -/

/-- A character that is no part of a reference and does not stand inside of one. -/
def EndsReference (c : Char) : Prop := isWord c = false ∧ isBlank c = false ∧ c ≠ ':'

instance (c : Char) : Decidable (EndsReference c) := inferInstanceAs (Decidable (_ ∧ _))

/-- A recogniser of references: it needs digits and reads across no character that ends one. -/
structure ReadsKeys (see : Recogniser String) : Prop where
  blind : BlindToBlanks see
  apart : SightsApart see
  digit : ∀ {before text sight}, see before text = some sight → ∃ c ∈ text, isDigit c = true
  stop : ∀ before front {more}, (∀ c, more.head? = some c → EndsReference c) →
    (see before (front ++ more)).map (·.1) = (see before front).map (·.1)

theorem RuleDigits.exists_digit {digits rest text : List Char} (h : RuleDigits digits rest)
    (htext : ∀ c ∈ digits, c ∈ text) : ∃ c ∈ text, isDigit c = true := by
  obtain ⟨c, hc⟩ := List.exists_mem_of_length_pos (Nat.lt_of_lt_of_le (by decide) h.enough)
  exact ⟨c, htext c hc, h.digit c hc⟩

section Stop

variable {more : List Char} (hmore : ∀ c, more.head? = some c → EndsReference c)

include hmore

theorem numberBehind?_append_of_stop (text : List Char) :
    numberBehind? (text ++ more) = numberBehind? text := by
  have hfacts : ∀ c, more.head? = some c → isDigit c = false ∧ c.isLower = false ∧ c ≠ 'S' :=
    fun c hc => not_word_facts (hmore c hc).1
  have hS : ∀ c, more.head? = some c → c ∉ ['S'] :=
    fun c hc => mt List.mem_singleton.mp (hfacts c hc).2.2
  simp only [numberBehind?, skipBlanks_append_of_stop fun c hc => (hmore c hc).2.1,
    after?_append_of_stop hS, ruleNumber?_append_of_stop fun c hc => (hfacts c hc).1,
    Option.bind_map, Option.map_map, Function.comp_def]

theorem prefixedAt?_append_of_stop {language : String} (hlanguage : language ∈ rulePrefixes)
    (text : List Char) :
    (prefixedAt? language (text ++ more)).map (·.1) = (prefixedAt? language text).map (·.1) := by
  have hletter : ∀ c, more.head? = some c → c ∉ language.toList :=
    fun c hc => not_mem_language hlanguage (not_word_facts (hmore c hc).1).2.1
  have hcolon : ∀ c, more.head? = some c → c ∉ [':'] :=
    fun c hc => mt List.mem_singleton.mp (hmore c hc).2.2
  simp only [prefixedAt?_key, after?_append_of_stop hletter, after?_append_of_stop hcolon,
    skipBlanks_append_of_stop fun c hc => (hmore c hc).2.1, numberBehind?_append_of_stop hmore,
    Option.bind_map, Function.comp_def]

end Stop

theorem prefixedReference_readsKeys : ReadsKeys prefixedReference where
  blind := prefixedReference_blind
  apart := prefixedReference_apart
  digit h := by
    obtain ⟨-, language, -, digits, rest, ⟨before, after, -, -, rfl, hdigits⟩, -⟩ :=
      prefixedReference_eq_some_iff.mp h
    exact hdigits.exists_digit fun c hc => by simp [hc]
  stop before front more hmore := by
    rw [prefixedReference, prefixedReference]
    split
    · rfl
    · rw [List.map_findSome?, List.map_findSome?]
      exact findSome?_congr fun language hlanguage =>
        prefixedAt?_append_of_stop hmore hlanguage front

theorem bareReference_readsKeys : ReadsKeys bareReference where
  blind := bareReference_blind
  apart := bareReference_apart
  digit h := by
    obtain ⟨-, digits, rest, rfl, hdigits, -⟩ := bareReference_eq_some_iff.mp h
    exact hdigits.exists_digit fun c hc => by simp [hc]
  stop before front more hmore := bareReference_append fun c hc => (hmore c hc).1

/-! ### Sentences -/

/-- A wording in which no reference can be read. -/
def NoDigit (text : String) : Prop := ∀ c ∈ text.toList, isDigit c = false

instance (text : String) : Decidable (NoDigit text) :=
  decidable_of_iff (text.toList.all fun c => !isDigit c) (by simp [NoDigit])

theorem NoDigit.append {text more : String} (h : NoDigit text) (hmore : NoDigit more) :
    NoDigit (text ++ more) := by
  rw [NoDigit, String.toList_append]
  exact fun c hc => (List.mem_append.mp hc).elim (h c) (hmore c)

/-- Rules in a sentence: behind a colon, with commas between them, up to a full stop. -/
def sentence (front : String) (rules : List String) (back : String) : String :=
  front ++ "): " ++ join ", " rules ++ "." ++ back

section Reading

variable {see : Recogniser String} (hsee : ReadsKeys see)

include hsee

theorem ReadsKeys.everyValue_of_no_digit {text : List Char}
    (htext : ∀ c ∈ text, isDigit c = false) (before : Option Char) :
    everyValue see before text = [] := by
  induction text generalizing before with
  | nil => rfl
  | cons c text ih =>
      have hnone : see before (c :: text) = none := by
        by_contra hsome
        obtain ⟨sight, hsight⟩ := Option.ne_none_iff_exists'.mp hsome
        obtain ⟨d, hd, hdigit⟩ := hsee.digit hsight
        rw [htext d hd] at hdigit
        cases hdigit
      rw [everyValue, hnone, ih (List.forall_mem_cons.mp htext).2]
      rfl

/-- Both sides of a character that ends references are read on their own. -/
theorem ReadsKeys.everyValue_stop {c : Char} (hc : EndsReference c) (before : Option Char)
    (front more : List Char) :
    everyValue see before (front ++ c :: more) =
      everyValue see before front ++ everyValue see none more := by
  have hhead : ∀ d, (c :: more).head? = some d → EndsReference d := by
    intro d hd
    obtain rfl := Option.some.inj hd
    exact hc
  induction front generalizing before with
  | nil =>
      have hhere : (see before (c :: more)).map (·.1) = (see before []).map (·.1) :=
        hsee.stop before [] hhead
      have hempty : see before [] = none := by
        by_contra hsome
        obtain ⟨sight, hsight⟩ := Option.ne_none_iff_exists'.mp hsome
        obtain ⟨d, hd, -⟩ := hsee.digit hsight
        cases hd
      have hmore : everyValue see (some c) more = everyValue see none more :=
        hsee.blind.everyValue_boundary more hc.1
      rw [List.nil_append, everyValue.eq_2, hhere, hempty, hmore]
      rfl
  | cons d front ih =>
      have hhere := hsee.stop before (d :: front) hhead
      rw [List.cons_append] at hhere ⊢
      rw [everyValue, everyValue, hhere, ih, List.append_assoc]

/-- White space at the head of a text is passed by. -/
theorem ReadsKeys.everyValue_blank (text : List Char) :
    everyValue see none (' ' :: text) = everyValue see none text := by
  have hmore : everyValue see (some ' ') text = everyValue see none text :=
    hsee.blind.everyValue_boundary text (by decide)
  rw [everyValue, hsee.blind.unseen ' ' (Or.inl (by decide)), hmore]
  rfl

theorem ReadsKeys.everyValue_key {key : String} {text : List Char}
    (h : see none text = some (key, text.length)) : everyValue see none text = [key] := by
  have hpast : ∀ (text : List Char) offset before,
      sightsFrom see text.length offset before text = [] := by
    intro text
    induction text with
    | nil => intro _ _; rfl
    | cons c text ih => exact fun offset before => ih (offset + 1) (some c)
  cases text with
  | nil =>
      obtain ⟨c, hc, -⟩ := hsee.digit h
      cases hc
  | cons c text =>
      rw [← map_everySight see 0, ← sights_eq_everySight hsee.apart, sights, sightsFrom, h]
      simp only [List.length_cons, Nat.add_sub_cancel, hpast, List.map_cons, List.map_nil]

/-- Out of a list of rules is read what is read out of each. -/
theorem ReadsKeys.everyValue_join (rules : List String) :
    everyValue see none (join ", " rules).toList =
      rules.flatMap fun rule => everyValue see none rule.toList := by
  induction rules with
  | nil => rfl
  | cons rule rest ih =>
      by_cases hrest : rest = []
      · rw [hrest, join, String.intercalate_singleton, List.flatMap_singleton]
      · have hjoin : (join ", " (rule :: rest)).toList =
            rule.toList ++ ',' :: ' ' :: (join ", " rest).toList := by
          rw [join, String.intercalate_cons_of_ne_nil hrest, String.toList_append,
            String.toList_append, List.append_assoc]
          rfl
        rw [hjoin, hsee.everyValue_stop (by decide +kernel), hsee.everyValue_blank, ih,
          List.flatMap_cons]

/-- Out of a sentence with rules is read what is read out of the rules. -/
theorem ReadsKeys.everyValue_sentence {front back : String} (hfront : NoDigit front)
    (hback : NoDigit back) (rules : List String) :
    everyValue see none (sentence front rules back).toList =
      rules.flatMap fun rule => everyValue see none rule.toList := by
  have hsplit : (sentence front rules back).toList =
      front.toList ++ ')' :: ':' :: ' ' :: ((join ", " rules).toList ++ '.' :: back.toList) := by
    simp only [sentence, String.toList_append, List.append_assoc]
    rfl
  have hcolon : BeginsColon (':' :: ' ' :: ((join ", " rules).toList ++ '.' :: back.toList))
      ((join ", " rules).toList ++ '.' :: back.toList) :=
    ⟨[], [' '], by simp, by simp; decide, rfl⟩
  rw [hsplit, hsee.everyValue_stop (by decide +kernel), hsee.everyValue_of_no_digit hfront,
    hsee.blind.everyValue_colon hcolon, hsee.everyValue_stop (by decide +kernel),
    hsee.everyValue_of_no_digit hback, hsee.everyValue_join, List.nil_append, List.append_nil]

end Reading

/-! ### Reading keys back -/

theorem IsRuleNumber.ruleDigits {digits : List Char} (h : IsRuleNumber digits) :
    RuleDigits digits [] := ⟨h.1, h.2, by simp⟩

theorem IsPrefixedKey.seen {rule : String} (h : IsPrefixedKey rule) :
    prefixedReference none rule.toList = some (rule, rule.toList.length) := by
  obtain ⟨language, hlanguage, digits, hdigits, rfl⟩ := h
  refine prefixedReference_eq_some_iff.mpr ?_
  exact ⟨rfl, language, hlanguage, digits, [],
    ⟨[], [], by simp, by simp, by simp, hdigits.ruleDigits⟩, rfl, rfl⟩

theorem IsPrefixedKey.read {rule : String} (h : IsPrefixedKey rule) :
    everyValue prefixedReference none rule.toList = [rule] :=
  prefixedReference_readsKeys.everyValue_key h.seen

theorem IsBareKey.seen {rule : String} (h : IsBareKey rule) :
    bareReference none rule.toList = some (rule, rule.toList.length) := by
  obtain ⟨digits, hdigits, rfl⟩ := h
  refine bareReference_eq_some_iff.mpr ?_
  exact ⟨rfl, digits, [], by simp, hdigits.ruleDigits, rfl, rfl, rfl⟩

theorem IsBareKey.read {rule : String} (h : IsBareKey rule) :
    everyValue bareReference none rule.toList = [rule] :=
  bareReference_readsKeys.everyValue_key h.seen

theorem IsBareKey.not_isLower {rule : String} (h : IsBareKey rule) :
    ∀ c ∈ rule.toList, c.isLower = false := by
  obtain ⟨digits, ⟨-, hdigit⟩, rfl⟩ := h
  simp only [String.toList_append, String.toList_ofList, List.mem_append]
  rintro c (hc | hc)
  · obtain rfl := List.mem_singleton.mp hc
    decide
  · exact (digit_facts (hdigit c hc)).2.2.1

theorem everyValue_prefixedReference_of_not_isLower {text : List Char}
    (h : ∀ c ∈ text, c.isLower = false) : everyValue prefixedReference none text = [] := by
  have hunseen :=
    everyValue_append_of_unseen (fun c hc => prefixedReference_unseen (h c hc)) none []
  rwa [List.append_nil] at hunseen

/-- A key without a prefix is read as none with one: it has no lower-case letter. -/
theorem IsBareKey.not_prefixed {rule : String} (h : IsBareKey rule) :
    everyValue prefixedReference none rule.toList = [] :=
  everyValue_prefixedReference_of_not_isLower h.not_isLower

/-- Where there are no keys, they are of any kind. -/
theorem keys_cases {rules : List String}
    (hkeys : (∀ rule ∈ rules, IsPrefixedKey rule) ∨ ∀ rule ∈ rules, IsBareKey rule) :
    (∀ rule ∈ rules, IsPrefixedKey rule) ∧ rules ≠ [] ∨ ∀ rule ∈ rules, IsBareKey rule := by
  by_cases hnone : rules = []
  · exact Or.inr (by simp [hnone])
  · exact hkeys.imp_left fun hprefixed => ⟨hprefixed, hnone⟩

/-- Distinct keys are extracted if they are read, those without a prefix if no other is. -/
theorem ruleReferences_of_values {text : List Char} {rules : List String} (hdistinct : rules.Nodup)
    (hvalues : everyValue prefixedReference none text = rules ∧ rules ≠ [] ∨
      everyValue prefixedReference none text = [] ∧ everyValue bareReference none text = rules) :
    ruleReferences text = rules := by
  rw [ruleReferences_eq_everyValue]
  rcases hvalues with ⟨hprefixed, hsome⟩ | ⟨hnone, hbare⟩
  · rw [hprefixed, if_neg hsome, eraseDups_of_nodup hdistinct]
  · rw [if_pos hnone, hbare, eraseDups_of_nodup hdistinct]

theorem ruleReferences_of_no_digit {text : String} (h : NoDigit text) :
    ruleReferences text.toList = [] := by
  rw [ruleReferences_eq_everyValue, prefixedReference_readsKeys.everyValue_of_no_digit h,
    bareReference_readsKeys.everyValue_of_no_digit h]
  rfl

/-- The rules of a sentence are extracted as they stand in it. -/
theorem ruleReferences_sentence {rules : List String} (hdistinct : rules.Nodup)
    (hkeys : (∀ rule ∈ rules, IsPrefixedKey rule) ∨ ∀ rule ∈ rules, IsBareKey rule)
    {front back : String} (hfront : NoDigit front) (hback : NoDigit back) :
    ruleReferences (sentence front rules back).toList = rules := by
  refine ruleReferences_of_values hdistinct ?_
  rw [prefixedReference_readsKeys.everyValue_sentence hfront hback,
    bareReference_readsKeys.everyValue_sentence hfront hback]
  rcases keys_cases hkeys with ⟨hprefixed, hsome⟩ | hbare
  · rw [List.flatMap_congr fun rule hrule => (hprefixed rule hrule).read, List.flatMap_singleton']
    exact Or.inl ⟨rfl, hsome⟩
  · rw [List.flatMap_congr fun rule hrule => (hbare rule hrule).not_prefixed,
      List.flatMap_congr fun rule hrule => (hbare rule hrule).read, List.flatMap_singleton']
    exact Or.inr ⟨by simp, rfl⟩

end Detect

end InlineAudit
