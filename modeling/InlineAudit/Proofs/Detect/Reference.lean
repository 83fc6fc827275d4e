import InlineAudit.Detect.Reference
import InlineAudit.Proofs.Detect.Marker
import InlineAudit.Proofs.Lists
import InlineAudit.Proofs.Text.Blank
import InlineAudit.Proofs.Text.Lines

/-!
Which rule references a text has. The search goes from left to right, tries the prefixes in a fixed
order and takes as many digits as it can; but a reference neither begins inside of another one nor
can it be read with two prefixes, so the references that are found are those at any offset at all.
White space around a colon tells nothing apart: it is no word character, no digit and no letter of
a prefix, and neither is the colon.
-/

namespace InlineAudit

open Detect Text

namespace Detect

/-- The digits of a rule number, with what follows them: at least three, and all there are. -/
structure RuleDigits (digits rest : List Char) : Prop where
  enough : 3 ≤ digits.length
  digit : ∀ c ∈ digits, isDigit c = true
  maximal : ∀ c, rest.head? = some c → isDigit c = false

/-- A text begins with a language, a colon and a rule number, which `rest` follows. White space
may stand around the colon. -/
def BeginsPrefixed (language : String) (digits text rest : List Char) : Prop :=
  ∃ before after, (∀ c ∈ before, isBlank c = true) ∧ (∀ c ∈ after, isBlank c = true) ∧
    text = language.toList ++ (before ++ ':' :: (after ++ 'S' :: (digits ++ rest))) ∧
    RuleDigits digits rest

/-- A reference with a prefix stands at an offset, behind a word boundary. -/
def PrefixedHit (text : List Char) (offset : Nat) (key : String) : Prop :=
  IsBoundary text offset ∧ ∃ language ∈ rulePrefixes, ∃ digits rest,
    BeginsPrefixed language digits (text.drop offset) rest ∧
    key = language ++ ":S" ++ String.ofList digits

/-- A reference without a prefix stands at an offset, between word boundaries. -/
def BareHit (text : List Char) (offset : Nat) (key : String) : Prop :=
  IsBoundary text offset ∧ ∃ digits rest, text.drop offset = 'S' :: (digits ++ rest) ∧
    RuleDigits digits rest ∧ IsBoundary text (offset + 1 + digits.length) ∧
    key = "S" ++ String.ofList digits

/-- All references of a kind, in the order of their offsets. -/
structure ListsHits (hit : Nat → String → Prop) (hits : List (Nat × String)) : Prop where
  mem_iff : ∀ offset key, (offset, key) ∈ hits ↔ hit offset key
  increasing : hits.Pairwise fun a b => a.1 < b.1

/-! ### Letters and digits -/

theorem prefix_letters {language : String} (h : language ∈ rulePrefixes) :
    language.toList ≠ [] ∧ ∀ c ∈ language.toList, c.isLower = true := by
  have hall : ∀ language ∈ rulePrefixes,
      language.toList ≠ [] ∧ language.toList.all Char.isLower = true := by decide
  obtain ⟨hne, hlower⟩ := hall language h
  exact ⟨hne, List.all_eq_true.mp hlower⟩

theorem not_mem_language {language : String} (h : language ∈ rulePrefixes) {c : Char}
    (hc : c.isLower = false) : c ∉ language.toList := by
  intro hmem
  rw [(prefix_letters h).2 c hmem] at hc
  cases hc

theorem ascii_of_isLower {c : Char} (h : c.isLower = true) : c.toNat < 0x80 := by
  have hle : c.val ≤ 'z'.val := of_decide_eq_true (Bool.and_eq_true_iff.mp h).2
  have hnat : c.toNat ≤ 'z'.toNat := UInt32.le_iff_toNat_le.mp hle
  exact Nat.lt_of_le_of_lt hnat (by decide)

/-- A letter of a prefix is a word character, and nothing else that a reference is made of. -/
theorem letter_facts {c : Char} (h : c.isLower = true) :
    isWord c = true ∧ isBlank c = false ∧ isDigit c = false ∧ c ≠ ':' ∧ c ≠ 'S' :=
  forall_ascii (p := fun c => c.isLower = true →
    isWord c = true ∧ isBlank c = false ∧ isDigit c = false ∧ c ≠ ':' ∧ c ≠ 'S')
    (by decide +kernel) (ascii_of_isLower h) h

theorem ascii_of_isDigit {c : Char} (h : isDigit c = true) : c.toNat < 0x80 := by
  have hle : c ≤ '9' := by
    simp only [isDigit, Bool.and_eq_true, decide_eq_true_eq] at h
    exact h.2
  have hnat : c.toNat ≤ '9'.toNat := UInt32.le_iff_toNat_le.mp hle
  exact Nat.lt_of_le_of_lt hnat (by decide)

theorem digit_facts {c : Char} (h : isDigit c = true) :
    isWord c = true ∧ isBlank c = false ∧ c.isLower = false ∧ c ≠ 'S' :=
  forall_ascii (p := fun c => isDigit c = true →
    isWord c = true ∧ isBlank c = false ∧ c.isLower = false ∧ c ≠ 'S')
    (by decide +kernel) (ascii_of_isDigit h) h

theorem not_isLower_of_isBlank {c : Char} (h : isBlank c = true) : c.isLower = false := by
  cases hc : c.isLower with
  | false => rfl
  | true => rw [(letter_facts hc).2.1] at h; cases h

/-- What is part of no word is none of the characters a key is made of, but for the colon. -/
theorem not_word_facts {c : Char} (h : isWord c = false) :
    isDigit c = false ∧ c.isLower = false ∧ c ≠ 'S' := by
  refine ⟨?_, ?_, ?_⟩
  · cases hc : isDigit c with
    | false => rfl
    | true => rw [(digit_facts hc).1] at h; cases h
  · cases hc : c.isLower with
    | false => rfl
    | true => rw [(letter_facts hc).1] at h; cases h
  · rintro rfl
    exact absurd h (by decide +kernel)

/-! ### Reading a reference -/

theorem ruleNumber?_eq_some_iff {text digits rest : List Char} :
    ruleNumber? text = some (digits, rest) ↔ text = digits ++ rest ∧ RuleDigits digits rest := by
  simp only [ruleNumber?]
  constructor
  · intro h
    split at h
    · cases h
    · rename_i henough
      obtain ⟨rfl, rfl⟩ := Prod.mk.inj (Option.some.inj h)
      refine ⟨List.takeWhile_append_dropWhile.symm, Nat.not_lt.mp henough, ?_, ?_⟩
      · exact fun c hc => List.all_eq_true.mp List.all_takeWhile c hc
      · intro c hc
        have := List.head?_dropWhile_not isDigit text
        rw [hc] at this
        simpa using this
  · rintro ⟨rfl, henough, hdigit, hmaximal⟩
    obtain ⟨htake, hdrop⟩ := span_append_of_stop hdigit hmaximal
    rw [htake, hdrop, if_neg (by omega)]

theorem prefixedAt?_eq_some_iff {language key : String} {text : List Char} {size : Nat} :
    prefixedAt? language text = some (key, size) ↔
      ∃ digits rest, BeginsPrefixed language digits text rest ∧
        key = language ++ ":S" ++ String.ofList digits ∧ size = text.length - rest.length := by
  simp only [prefixedAt?, Option.bind_eq_bind, Option.bind_eq_some_iff, after?_eq_some_iff,
    List.singleton_append, skipBlanks_eq_iff (show isBlank ':' = false by decide),
    skipBlanks_eq_iff (show isBlank 'S' = false by decide), Option.pure_def, Option.some.injEq,
    Prod.exists, ruleNumber?_eq_some_iff, Prod.mk.injEq]
  constructor
  · rintro ⟨_, rfl, _, ⟨before, hbefore, rfl⟩, _, ⟨after, hafter, rfl⟩, digits, rest,
      ⟨rfl, hdigits⟩, rfl, rfl⟩
    exact ⟨digits, rest, ⟨before, after, hbefore, hafter, rfl, hdigits⟩, rfl, rfl⟩
  · rintro ⟨digits, rest, ⟨before, after, hbefore, hafter, rfl, hdigits⟩, rfl, rfl⟩
    exact ⟨_, rfl, _, ⟨before, hbefore, rfl⟩, _, ⟨after, hafter, rfl⟩, digits, rest,
      ⟨rfl, hdigits⟩, rfl, rfl⟩

/-- The prefix of a reference is told by the text: it is all the letters at its head. -/
theorem BeginsPrefixed.language_eq {language : String} {digits text rest : List Char}
    (h : BeginsPrefixed language digits text rest) (hlanguage : language ∈ rulePrefixes) :
    language.toList = text.takeWhile Char.isLower := by
  obtain ⟨before, after, hbefore, -, rfl, -⟩ := h
  refine (span_append_of_stop (prefix_letters hlanguage).2 ?_).1.symm
  intro c hc
  cases before with
  | nil =>
      obtain rfl : ':' = c := by simpa using hc
      decide
  | cons b before =>
      obtain rfl : b = c := by simpa using hc
      exact not_isLower_of_isBlank (hbefore b (by simp))

theorem prefixedAt?_agree {a b : String} (ha : a ∈ rulePrefixes) (hb : b ∈ rulePrefixes)
    {text : List Char} {x y : String × Nat} (hx : prefixedAt? a text = some x)
    (hy : prefixedAt? b text = some y) : x = y := by
  obtain ⟨digits, rest, hbegins, -⟩ := prefixedAt?_eq_some_iff.mp hx
  obtain ⟨digits', rest', hbegins', -⟩ := prefixedAt?_eq_some_iff.mp hy
  have hsame : a = b := by
    rw [← String.toList_inj, hbegins.language_eq ha, hbegins'.language_eq hb]
  rw [hsame, hy] at hx
  exact (Option.some.inj hx).symm

/-! ### Where references stand -/

theorem prefixedReference_eq_some_iff {before : Option Char} {text : List Char} {key : String}
    {size : Nat} :
    prefixedReference before text = some (key, size) ↔
      neighbourIsWord before = false ∧ ∃ language ∈ rulePrefixes, ∃ digits rest,
        BeginsPrefixed language digits text rest ∧
          key = language ++ ":S" ++ String.ofList digits ∧ size = text.length - rest.length := by
  have hchoice : rulePrefixes.findSome? (prefixedAt? · text) = some (key, size) ↔
      ∃ language ∈ rulePrefixes, prefixedAt? language text = some (key, size) :=
    findSome?_eq_some_iff_of_agree fun _ ha _ hb _ _ => prefixedAt?_agree ha hb
  rw [prefixedReference]
  split
  · rename_i hword
    simp [hword]
  · rename_i hword
    simp only [hchoice, prefixedAt?_eq_some_iff, hword, true_and]

theorem bareReference_eq_some_iff {before : Option Char} {text : List Char} {key : String}
    {size : Nat} :
    bareReference before text = some (key, size) ↔
      neighbourIsWord before = false ∧ ∃ digits rest, text = 'S' :: (digits ++ rest) ∧
        RuleDigits digits rest ∧ neighbourIsWord rest.head? = false ∧
          key = "S" ++ String.ofList digits ∧ size = text.length - rest.length := by
  rw [bareReference]
  split
  · rename_i hword
    simp [hword]
  · rename_i hword
    simp only [Option.bind_eq_bind, Option.bind_eq_some_iff, after?_eq_some_iff,
      List.singleton_append, Prod.exists, ruleNumber?_eq_some_iff, hword, Bool.not_eq_true,
      true_and, Option.pure_def, Option.ite_none_left_eq_some, Option.some.injEq, Prod.mk.injEq]
    constructor
    · rintro ⟨_, rfl, digits, rest, ⟨rfl, hdigits⟩, hend, rfl, rfl⟩
      exact ⟨digits, rest, rfl, hdigits, by simpa using hend, rfl, rfl⟩
    · rintro ⟨digits, rest, rfl, hdigits, hend, rfl, rfl⟩
      exact ⟨_, rfl, digits, rest, ⟨rfl, hdigits⟩, by simp [hend], rfl, rfl⟩

theorem getElem?_of_drop_eq {text front rest : List Char} {offset i : Nat}
    (h : text.drop offset = front ++ rest) (hi : i < front.length) :
    text[offset + i]? = front[i]? := by
  rw [← List.getElem?_drop, h, List.getElem?_append_left hi]

theorem BeginsPrefixed.head_isLower {language : String} (hlanguage : language ∈ rulePrefixes)
    {digits text rest : List Char} (h : BeginsPrefixed language digits text rest) :
    ∃ c, text.head? = some c ∧ c.isLower = true := by
  obtain ⟨before, after, -, -, rfl, -⟩ := h
  obtain ⟨hne, hletters⟩ := prefix_letters hlanguage
  obtain ⟨c, letters, heq⟩ := List.exists_cons_of_ne_nil hne
  rw [heq] at hletters ⊢
  exact ⟨c, rfl, hletters c List.mem_cons_self⟩

theorem seenAt_prefixedReference {text : List Char} {offset : Nat} {key : String} :
    (∃ size, seenAt prefixedReference text offset = some (key, size)) ↔
      PrefixedHit text offset key := by
  -- a prefix begins with a word character, so the boundary is a matter of what is before it
  have hboundary : ∀ language ∈ rulePrefixes, ∀ digits rest,
      BeginsPrefixed language digits (text.drop offset) rest →
      (IsBoundary text offset ↔ neighbourIsWord (charBefore text offset) = false) := by
    intro language hlanguage digits rest hbegins
    obtain ⟨c, hc, hlower⟩ := hbegins.head_isLower hlanguage
    rw [List.head?_drop] at hc
    exact isBoundary_iff_before (by rw [hc]; exact (letter_facts hlower).1)
  simp only [seenAt, prefixedReference_eq_some_iff, PrefixedHit]
  constructor
  · rintro ⟨size, hbefore, language, hlanguage, digits, rest, hbegins, hkey, -⟩
    exact ⟨(hboundary language hlanguage digits rest hbegins).mpr hbefore, language, hlanguage,
      digits, rest, hbegins, hkey⟩
  · rintro ⟨hbefore, language, hlanguage, digits, rest, hbegins, hkey⟩
    exact ⟨_, (hboundary language hlanguage digits rest hbegins).mp hbefore, language, hlanguage,
      digits, rest, hbegins, hkey, rfl⟩

/-- `S` and the digits are word characters, so the boundaries of a bare reference are a matter of
what is next to it. -/
theorem bare_boundaries {text digits rest : List Char} {offset : Nat}
    (htext : text.drop offset = 'S' :: (digits ++ rest)) (hdigits : RuleDigits digits rest) :
    (IsBoundary text offset ↔ neighbourIsWord (charBefore text offset) = false) ∧
      (IsBoundary text (offset + 1 + digits.length) ↔ neighbourIsWord rest.head? = false) := by
  have htaken : ∀ i ≤ digits.length, neighbourIsWord text[offset + i]? = true := by
    intro i hi
    have hlt : i < ('S' :: digits).length := Nat.lt_succ_of_le hi
    rw [getElem?_of_drop_eq (htext.trans List.cons_append.symm) hlt,
      List.getElem?_eq_getElem hlt]
    rcases List.mem_cons.mp (List.getElem_mem hlt) with hS | hmem
    · rw [hS]
      decide +kernel
    · exact (digit_facts (hdigits.digit _ hmem)).1
  have hlast : neighbourIsWord (charBefore text (offset + 1 + digits.length)) = true := by
    rw [Nat.add_right_comm, charBefore_succ]
    exact htaken digits.length (Nat.le_refl _)
  have hnext : text[offset + 1 + digits.length]? = rest.head? := by
    rw [← List.head?_drop, Nat.add_assoc, ← List.drop_drop, htext, Nat.add_comm,
      List.drop_succ_cons, List.drop_left]
  exact ⟨isBoundary_iff_before (htaken 0 (Nat.zero_le _)), hnext ▸ isBoundary_iff_after hlast⟩

theorem seenAt_bareReference {text : List Char} {offset : Nat} {key : String} :
    (∃ size, seenAt bareReference text offset = some (key, size)) ↔ BareHit text offset key := by
  simp only [seenAt, bareReference_eq_some_iff, BareHit]
  constructor
  · rintro ⟨size, hbefore, digits, rest, htext, hdigits, hend, hkey, -⟩
    obtain ⟨hleft, hright⟩ := bare_boundaries htext hdigits
    exact ⟨hleft.mpr hbefore, digits, rest, htext, hdigits, hright.mpr hend, hkey⟩
  · rintro ⟨hbefore, digits, rest, htext, hdigits, hend, hkey⟩
    obtain ⟨hleft, hright⟩ := bare_boundaries htext hdigits
    exact ⟨_, hleft.mp hbefore, digits, rest, htext, hdigits, hright.mp hend, hkey, rfl⟩

/-! ### No reference hides another -/

theorem PrefixedHit.lt_length {text : List Char} {offset : Nat} {key : String}
    (h : PrefixedHit text offset key) : offset < text.length := by
  obtain ⟨-, language, hlanguage, digits, rest, hbegins, -⟩ := h
  obtain ⟨c, hc, -⟩ := hbegins.head_isLower hlanguage
  rw [List.head?_drop] at hc
  exact (List.getElem?_eq_some_iff.mp hc).1

theorem BareHit.lt_length {text : List Char} {offset : Nat} {key : String}
    (h : BareHit text offset key) : offset < text.length := by
  obtain ⟨-, digits, rest, htext, -⟩ := h
  have hlength := congrArg List.length htext
  simp only [List.length_drop, List.length_cons] at hlength
  omega

/-- Inside of a reference, a letter that could begin a prefix follows another letter. -/
theorem BeginsPrefixed.letter_before {language : String} {digits text rest : List Char}
    (h : BeginsPrefixed language digits text rest) (hlanguage : language ∈ rulePrefixes) {i : Nat}
    (hi : i + 1 < text.length - rest.length) {c : Char} (hc : text[i + 1]? = some c)
    (hlower : c.isLower = true) : neighbourIsWord text[i]? = true := by
  obtain ⟨blanks, blanks', hblanks, hblanks', htext, hdigits⟩ := h
  obtain ⟨others, hothers⟩ : ∃ others, others = blanks ++ ':' :: (blanks' ++ 'S' :: digits) :=
    ⟨_, rfl⟩
  have hsplit : text = (language.toList ++ others) ++ rest := by simp [htext, hothers]
  have hnone : ∀ c ∈ others, c.isLower = false := by
    simp only [hothers, List.mem_append, List.mem_cons]
    rintro c (hc | rfl | hc | rfl | hc)
    · exact not_isLower_of_isBlank (hblanks c hc)
    · decide
    · exact not_isLower_of_isBlank (hblanks' c hc)
    · decide
    · exact (digit_facts (hdigits.digit c hc)).2.2.1
  have hlt : i + 1 < (language.toList ++ others).length := by
    simp only [hsplit, List.length_append] at hi ⊢
    omega
  rw [hsplit, List.getElem?_append_left hlt] at hc
  by_cases hplace : i + 1 < language.toList.length
  · have hi' : i < language.toList.length := Nat.lt_of_succ_lt hplace
    rw [hsplit, List.append_assoc, List.getElem?_append_left hi', List.getElem?_eq_getElem hi']
    exact (letter_facts ((prefix_letters hlanguage).2 _ (List.getElem_mem hi'))).1
  · rw [List.getElem?_append_right (Nat.le_of_not_lt hplace)] at hc
    rw [hnone c (List.mem_of_getElem? hc)] at hlower
    cases hlower

theorem prefixedReference_apart : SightsApart prefixedReference := by
  intro before text key size hsee i hi
  obtain ⟨-, language, hlanguage, digits, rest, hbegins, -, rfl⟩ :=
    prefixedReference_eq_some_iff.mp hsee
  by_contra hsome
  obtain ⟨⟨key', size'⟩, hsee'⟩ := Option.ne_none_iff_exists'.mp hsome
  obtain ⟨hbefore, language', hlanguage', _, _, hbegins', -⟩ :=
    prefixedReference_eq_some_iff.mp hsee'
  obtain ⟨c, hc, hlower⟩ := hbegins'.head_isLower hlanguage'
  rw [List.head?_drop] at hc
  rw [hbegins.letter_before hlanguage hi hc hlower] at hbefore
  cases hbefore

theorem bareReference_apart : SightsApart bareReference := by
  intro before text key size hsee i hi
  obtain ⟨-, digits, rest, rfl, hdigits, -, -, rfl⟩ := bareReference_eq_some_iff.mp hsee
  have hlt : i < digits.length := by
    simp only [List.length_cons, List.length_append] at hi
    omega
  by_contra hsome
  obtain ⟨⟨key', size'⟩, hsee'⟩ := Option.ne_none_iff_exists'.mp hsome
  obtain ⟨-, _, _, htext, -⟩ := bareReference_eq_some_iff.mp hsee'
  have hc := congrArg List.head? htext
  rw [List.drop_succ_cons, List.head?_drop, List.getElem?_append_left hlt, List.head?_cons] at hc
  exact (digit_facts (hdigits.digit 'S' (List.mem_of_getElem? hc))).2.2.2 rfl

/-- If sights do not overlap, a search lists what they stand for. -/
theorem SightsApart.listsHits {see : Recogniser String} (hsee : SightsApart see)
    {text : List Char} {hit : Nat → String → Prop}
    (hat : ∀ {offset key}, (∃ size, seenAt see text offset = some (key, size)) ↔ hit offset key)
    (hlt : ∀ {offset key}, hit offset key → offset < text.length) :
    ListsHits hit (sights see text) := by
  rw [sights_eq_everySight hsee]
  refine ⟨fun offset key => ?_, everySight_increasing ..⟩
  rw [mem_everySight, hat]
  exact ⟨fun h => h.2, fun h => ⟨hlt h, h⟩⟩

theorem sights_prefixedReference (text : List Char) :
    ListsHits (PrefixedHit text) (sights prefixedReference text) :=
  prefixedReference_apart.listsHits seenAt_prefixedReference PrefixedHit.lt_length

theorem sights_bareReference (text : List Char) :
    ListsHits (BareHit text) (sights bareReference text) :=
  bareReference_apart.listsHits seenAt_bareReference BareHit.lt_length

/-! ### The order of the prefixes -/

/-- The references with a prefix, where the prefixes are tried in an order of choice. -/
def prefixedReferenceIn (order : List String) : Recogniser String := fun before text =>
  if neighbourIsWord before then none else order.findSome? (prefixedAt? · text)

/-- The rule references of a text, where the prefixes are tried in an order of choice. -/
def ruleReferencesIn (order : List String) (text : List Char) : List String :=
  match (sights (prefixedReferenceIn order) text).map (·.2) with
  | [] => ((sights bareReference text).map (·.2)).eraseDups
  | found => found.eraseDups

theorem prefixedReferenceIn_eq {order : List String}
    (horder : ∀ language, language ∈ order ↔ language ∈ rulePrefixes) :
    prefixedReferenceIn order = prefixedReference := by
  funext before text
  rw [prefixedReferenceIn, prefixedReference]
  split
  · rfl
  refine Option.ext fun sight => ?_
  have hagree : ∀ a ∈ order, ∀ b ∈ order, ∀ x y, prefixedAt? a text = some x →
      prefixedAt? b text = some y → x = y :=
    fun a ha b hb _ _ => prefixedAt?_agree ((horder a).mp ha) ((horder b).mp hb)
  rw [findSome?_eq_some_iff_of_agree hagree,
    findSome?_eq_some_iff_of_agree fun _ ha _ hb _ _ => prefixedAt?_agree ha hb]
  simp only [horder]

theorem ruleReferencesIn_eq {order : List String}
    (horder : ∀ language, language ∈ order ↔ language ∈ rulePrefixes) (text : List Char) :
    ruleReferencesIn order text = ruleReferences text := by
  rw [ruleReferencesIn, prefixedReferenceIn_eq horder]
  rfl

/-! ### White space around a colon -/

/-- A text begins with a colon, with white space around it or none, which `rest` follows. -/
def BeginsColon (text rest : List Char) : Prop :=
  ∃ before after, (∀ c ∈ before, isBlank c = true) ∧ (∀ c ∈ after, isBlank c = true) ∧
    text = before ++ ':' :: (after ++ rest)

/-- White space and colons are no part of a word, and of a reference only around its colon. -/
theorem separator_facts {c : Char} (h : isBlank c = true ∨ c = ':') :
    isWord c = false ∧ c.isLower = false ∧ isDigit c = false ∧ c ≠ 'S' := by
  have hword : isWord c = false := by
    rcases h with hblank | rfl
    · exact not_isWord_of_isBlank hblank
    · decide +kernel
  obtain ⟨hdigit, hlower, hS⟩ := not_word_facts hword
  exact ⟨hword, hlower, hdigit, hS⟩

theorem BeginsColon.separator {text rest : List Char} (h : BeginsColon text rest) {c : Char}
    (hc : text.head? = some c) : isBlank c = true ∨ c = ':' := by
  obtain ⟨before, after, hbefore, -, rfl⟩ := h
  cases before with
  | nil => exact Or.inr (by simpa using hc.symm)
  | cons b before =>
      obtain rfl : b = c := by simpa using hc
      exact Or.inl (hbefore b List.mem_cons_self)

theorem BeginsColon.skipBlanks {text rest : List Char} (h : BeginsColon text rest)
    {blanks : List Char} (hblanks : ∀ c ∈ blanks, isBlank c = true) :
    ∃ after, (∀ c ∈ after, isBlank c = true) ∧
      skipBlanks (blanks ++ text) = ':' :: (after ++ rest) := by
  obtain ⟨before, after, hbefore, hafter, rfl⟩ := h
  refine ⟨after, hafter, (skipBlanks_eq_iff (by decide)).mpr ⟨blanks ++ before, ?_, by simp⟩⟩
  intro c hc
  rcases List.mem_append.mp hc with hc | hc
  · exact hblanks c hc
  · exact hbefore c hc

/-- Digits go no further than a character that is none. -/
theorem ruleNumber?_append_of_stop {more : List Char}
    (hmore : ∀ c, more.head? = some c → isDigit c = false) (text : List Char) :
    ruleNumber? (text ++ more) =
      (ruleNumber? text).map fun number => (number.1, number.2 ++ more) := by
  have hstop : ∀ c, (text.dropWhile isDigit ++ more).head? = some c → isDigit c = false := by
    have hnot := List.head?_dropWhile_not isDigit text
    cases hrest : text.dropWhile isDigit with
    | nil => exact hmore
    | cons d rest =>
        rw [hrest] at hnot
        rintro c hc
        obtain rfl : d = c := by simpa using hc
        simpa using hnot
  have hdigits : ∀ c ∈ text.takeWhile isDigit, isDigit c = true :=
    List.all_eq_true.mp List.all_takeWhile
  have hspan := span_append_of_stop hdigits hstop
  rw [← List.append_assoc, List.takeWhile_append_dropWhile] at hspan
  simp only [ruleNumber?, hspan.1, hspan.2]
  split
  · rfl
  · rfl

theorem after?_append_of_stop {start more : List Char}
    (hmore : ∀ c, more.head? = some c → c ∉ start) (text : List Char) :
    after? start (text ++ more) = (after? start text).map (· ++ more) := by
  fun_induction after? start text with
  | case1 text => rw [after?, Option.map_some]
  | case2 a start =>
      cases more with
      | nil => rfl
      | cons c more =>
          have hne : a ≠ c := fun h => hmore c rfl (h ▸ List.mem_cons_self)
          rw [List.nil_append, after?, if_neg hne, Option.map_none]
  | case3 start b text ih =>
      rw [List.cons_append, after?, if_pos rfl]
      exact ih fun c hc hmem => hmore c hc (List.mem_cons_of_mem _ hmem)
  | case4 a start b text hne => rw [List.cons_append, after?, if_neg hne, Option.map_none]

theorem after?_singleton (a c : Char) (text : List Char) :
    after? [a] (c :: text) = if a = c then some text else none := rfl

/-- The digits of the rule number that a text goes on with, after white space and `S`. -/
def numberBehind? (text : List Char) : Option (List Char) :=
  (after? ['S'] (skipBlanks text)).bind fun rest => (ruleNumber? rest).map (·.1)

theorem prefixedAt?_key (language : String) (text : List Char) :
    (prefixedAt? language text).map (·.1) =
      (((after? language.toList text).bind fun rest =>
        (after? [':'] (skipBlanks rest)).bind numberBehind?).map
        fun digits => language ++ ":S" ++ String.ofList digits) := by
  simp only [prefixedAt?, numberBehind?, Option.bind_eq_bind, Option.pure_def, Option.map_eq_bind,
    Option.bind_assoc, Function.comp_def, Option.bind_some]

theorem numberBehind?_append {front text text' rest : List Char} (htext : BeginsColon text rest)
    (htext' : BeginsColon text' rest) :
    numberBehind? (front ++ text) = numberBehind? (front ++ text') := by
  rw [numberBehind?, numberBehind?]
  rcases skipBlanks_cases front with hall | ⟨c, behind, -, hskip⟩
  · -- both go on with a second colon
    obtain ⟨_, -, hcolon⟩ := htext.skipBlanks hall
    obtain ⟨_, -, hcolon'⟩ := htext'.skipBlanks hall
    rw [hcolon, hcolon']
    rfl
  · have hstop : ∀ {text}, BeginsColon text rest → ∀ c, text.head? = some c → isDigit c = false :=
      fun h c hc => (separator_facts (h.separator hc)).2.2.1
    rw [hskip, hskip, after?_singleton, after?_singleton]
    split
    · simp only [Option.bind_some, ruleNumber?_append_of_stop (hstop htext),
        ruleNumber?_append_of_stop (hstop htext'), Option.map_map, Function.comp_def]
    · rfl

theorem prefixedAt?_append {language : String} (hlanguage : language ∈ rulePrefixes)
    {front text text' rest : List Char} (htext : BeginsColon text rest)
    (htext' : BeginsColon text' rest) :
    (prefixedAt? language (front ++ text)).map (·.1) =
      (prefixedAt? language (front ++ text')).map (·.1) := by
  have hstop : ∀ {text}, BeginsColon text rest →
      ∀ c, text.head? = some c → c ∉ language.toList :=
    fun h c hc => not_mem_language hlanguage (separator_facts (h.separator hc)).2.1
  rw [prefixedAt?_key, prefixedAt?_key, after?_append_of_stop (hstop htext),
    after?_append_of_stop (hstop htext')]
  cases after? language.toList front with
  | none => rfl
  | some front =>
      simp only [Option.map_some, Option.bind_some]
      rcases skipBlanks_cases front with hall | ⟨c, behind, -, hskip⟩
      · obtain ⟨after, hafter, hcolon⟩ := htext.skipBlanks hall
        obtain ⟨after', hafter', hcolon'⟩ := htext'.skipBlanks hall
        have hbehind : ∀ {blanks}, (∀ c ∈ blanks, isBlank c = true) →
            numberBehind? (blanks ++ rest) = numberBehind? rest := by
          intro blanks hblanks
          rw [numberBehind?, Text.skipBlanks, List.dropWhile_append_of_pos hblanks]
          rfl
        rw [hcolon, hcolon', after?_singleton, after?_singleton, if_pos rfl, if_pos rfl,
          Option.bind_some, Option.bind_some, hbehind hafter, hbehind hafter']
      · rw [hskip, hskip, after?_singleton, after?_singleton]
        split
        · rw [Option.bind_some, Option.bind_some, numberBehind?_append htext htext']
        · rfl

/-- White space around a colon plays no part in what a recogniser sees. -/
structure BlindToBlanks {α : Type} (see : Recogniser α) : Prop where
  boundary : ∀ before before' text, neighbourIsWord before = neighbourIsWord before' →
    see before text = see before' text
  unseen : ∀ c, isBlank c = true ∨ c = ':' → ∀ before text, see before (c :: text) = none
  front : ∀ before front text text' rest, BeginsColon text rest → BeginsColon text' rest →
    (see before (front ++ text)).map (·.1) = (see before (front ++ text')).map (·.1)

/-- Nothing counts of the character before a text but whether it is a word character. -/
theorem BlindToBlanks.everyValue_boundary {α : Type} {see : Recogniser α} (hsee : BlindToBlanks see)
    {before before' : Option Char} (text : List Char)
    (h : neighbourIsWord before = neighbourIsWord before') :
    everyValue see before text = everyValue see before' text := by
  cases text with
  | nil => rfl
  | cons c text => rw [everyValue, everyValue, hsee.boundary before before' _ h]

theorem BlindToBlanks.everyValue_colon {α : Type} {see : Recogniser α} (hsee : BlindToBlanks see)
    {text rest : List Char} (htext : BeginsColon text rest) (before : Option Char) :
    everyValue see before text = everyValue see none rest := by
  obtain ⟨blanks, blanks', hblanks, hblanks', rfl⟩ := htext
  have hseparator : ∀ c ∈ blanks ++ ':' :: blanks', isBlank c = true ∨ c = ':' := by
    simp only [List.mem_append, List.mem_cons]
    rintro c (hc | rfl | hc)
    · exact Or.inl (hblanks c hc)
    · exact Or.inr rfl
    · exact Or.inl (hblanks' c hc)
  obtain ⟨last, hlast⟩ : ∃ last, (blanks ++ ':' :: blanks').getLast? = some last :=
    ⟨_, List.getLast?_eq_getLast_of_ne_nil (by simp)⟩
  have hsplit : blanks ++ ':' :: (blanks' ++ rest) = (blanks ++ ':' :: blanks') ++ rest := by simp
  rw [hsplit, everyValue_append_of_unseen fun c hc => hsee.unseen c (hseparator c hc), hlast,
    Option.some_or]
  -- what follows has no word character before it
  exact hsee.everyValue_boundary rest
    (separator_facts (hseparator last (List.mem_of_getLast? hlast))).1

theorem BlindToBlanks.everyValue_append {α : Type} {see : Recogniser α} (hsee : BlindToBlanks see)
    {text text' rest : List Char} (htext : BeginsColon text rest) (htext' : BeginsColon text' rest)
    (before : Option Char) (front : List Char) :
    everyValue see before (front ++ text) = everyValue see before (front ++ text') := by
  refine everyValue_append_congr ?_ ?_ before front
  · exact fun before front => hsee.front before front text text' rest htext htext'
  · exact fun before => (hsee.everyValue_colon htext before).trans
      (hsee.everyValue_colon htext' before).symm

/-- A reference with a prefix begins with a letter of the prefix. -/
theorem prefixedReference_unseen {c : Char} (hc : c.isLower = false) (before : Option Char)
    (text : List Char) : prefixedReference before (c :: text) = none := by
  by_contra hsome
  obtain ⟨⟨key, size⟩, hsee⟩ := Option.ne_none_iff_exists'.mp hsome
  obtain ⟨-, language, hlanguage, digits, rest, hbegins, -⟩ :=
    prefixedReference_eq_some_iff.mp hsee
  obtain ⟨d, hd, hlower⟩ := hbegins.head_isLower hlanguage
  obtain rfl : c = d := Option.some.inj hd
  rw [hc] at hlower
  cases hlower

theorem prefixedReference_blind : BlindToBlanks prefixedReference where
  boundary before before' text h := by rw [prefixedReference, prefixedReference, h]
  unseen c hc := prefixedReference_unseen (separator_facts hc).2.1
  front before front text text' rest htext htext' := by
    rw [prefixedReference, prefixedReference]
    split
    · rfl
    · rw [List.map_findSome?, List.map_findSome?]
      exact findSome?_congr fun language hlanguage => prefixedAt?_append hlanguage htext htext'

/-- Any character that is part of no word ends a reference without a prefix, as the end of the
text does. -/
theorem bareReference_append {before : Option Char} {front text : List Char}
    (htext : ∀ c, text.head? = some c → isWord c = false) :
    (bareReference before (front ++ text)).map (·.1) = (bareReference before front).map (·.1) := by
  have hS : ∀ c, text.head? = some c → c ∉ ['S'] := by
    intro c hc hmem
    exact (not_word_facts (htext c hc)).2.2 (List.mem_singleton.mp hmem)
  have hdigit : ∀ c, text.head? = some c → isDigit c = false :=
    fun c hc => (not_word_facts (htext c hc)).1
  have hend : ∀ rest, neighbourIsWord (rest ++ text).head? = neighbourIsWord rest.head? := by
    intro rest
    cases rest with
    | cons c rest => rfl
    | nil =>
        cases hc : text.head? with
        | none => rw [List.nil_append, hc, List.head?_nil]
        | some c =>
            rw [List.nil_append, hc]
            exact htext c hc
  simp only [bareReference, after?_append_of_stop hS]
  split
  · rfl
  cases after? ['S'] front with
  | none => rfl
  | some behind =>
      simp only [Option.map_some, Option.bind_eq_bind, Option.bind_some,
        ruleNumber?_append_of_stop hdigit]
      cases ruleNumber? behind with
      | none => rfl
      | some number =>
          simp only [Option.map_some, Option.bind_some, hend]
          split <;> rfl

theorem bareReference_blind : BlindToBlanks bareReference where
  boundary before before' text h := by rw [bareReference, bareReference, h]
  unseen c hc before text := by
    have hne : 'S' ≠ c := (separator_facts hc).2.2.2.symm
    simp [bareReference, after?_singleton, hne]
  front before front text text' rest htext htext' := by
    have hstop : ∀ {text}, BeginsColon text rest → ∀ c, text.head? = some c → isWord c = false :=
      fun h c hc => (separator_facts (h.separator hc)).1
    rw [bareReference_append (hstop htext), bareReference_append (hstop htext')]

theorem ruleReferences_eq_everyValue (text : List Char) :
    ruleReferences text =
      if everyValue prefixedReference none text = [] then
        (everyValue bareReference none text).eraseDups
      else (everyValue prefixedReference none text).eraseDups := by
  rw [ruleReferences, prefixedReference_apart.map_sights, bareReference_apart.map_sights]
  cases everyValue prefixedReference none text <;> rfl

/-- White space around a colon may be left out. -/
theorem ruleReferences_append {text rest : List Char} (htext : BeginsColon text rest)
    (front : List Char) :
    ruleReferences (front ++ text) = ruleReferences (front ++ ':' :: rest) := by
  have hbare : BeginsColon (':' :: rest) rest := ⟨[], [], by simp, by simp, rfl⟩
  rw [ruleReferences_eq_everyValue, ruleReferences_eq_everyValue,
    prefixedReference_blind.everyValue_append htext hbare,
    bareReference_blind.everyValue_append htext hbare]

end Detect

/-- Rule extraction finds every reference and nothing else. The references with a prefix, at
whatever offsets, are told in the order of their offsets and each once; if there is none, those
without a prefix are. In which order the prefixes are tried plays no part, and neither does white
space around a colon. -/
theorem rule_references_exact (text : List Char) :
    (∃ prefixed bare, ListsHits (PrefixedHit text) prefixed ∧ ListsHits (BareHit text) bare ∧
      ruleReferences text =
        if prefixed = [] then (bare.map (·.2)).eraseDups else (prefixed.map (·.2)).eraseDups) ∧
    (∀ order, (∀ language, language ∈ order ↔ language ∈ rulePrefixes) →
      ruleReferencesIn order text = ruleReferences text) ∧
    ∀ front colon rest, BeginsColon colon rest → text = front ++ colon →
      ruleReferences text = ruleReferences (front ++ ':' :: rest) := by
  refine ⟨⟨_, _, sights_prefixedReference text, sights_bareReference text, ?_⟩, ?_, ?_⟩
  · rw [ruleReferences]
    cases sights prefixedReference text <;> rfl
  · exact fun order horder => ruleReferencesIn_eq horder text
  · rintro front colon rest hcolon rfl
    exact ruleReferences_append hcolon front

/-- Two prefixes of which one begins the other, white space, and a reference without a prefix. -/
def scatteredReferences : List Char :=
  "S2095, java".toList ++ "\u00A0:\n S1234, javascript:S1000, java:S1234".toList

/-- The prefixes tried from the last to the first, and the same text without white space around
its first colon. -/
theorem scatteredReferences_told :
    ruleReferencesIn rulePrefixes.reverse scatteredReferences = ["java:S1234", "javascript:S1000"] ∧
    ruleReferences ("S2095, java".toList ++ ':' :: "S1234, javascript:S1000, java:S1234".toList) =
      ["java:S1234", "javascript:S1000"] := by
  have htold : ruleReferences scatteredReferences = ["java:S1234", "javascript:S1000"] := by
    decide +kernel
  have hbegins : BeginsColon "\u00A0:\n S1234, javascript:S1000, java:S1234".toList
      "S1234, javascript:S1000, java:S1234".toList :=
    ⟨"\u00A0".toList, "\n ".toList, List.all_eq_true.mp (by decide),
      List.all_eq_true.mp (by decide), by decide +kernel⟩
  obtain ⟨-, horder, hcolon⟩ := rule_references_exact scatteredReferences
  constructor
  · exact (horder rulePrefixes.reverse fun language => List.mem_reverse).trans htold
  · exact (hcolon "S2095, java".toList _ _ hbegins rfl).symm.trans htold

end InlineAudit
