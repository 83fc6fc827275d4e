import InlineAudit.Command.Program
import InlineAudit.Proofs.Detect.Keys
import InlineAudit.Proofs.Detect.Numbering
import InlineAudit.Tools.Reply

/-!
Reading references again. A list of rule keys of one kind, with anything but word characters
between them, is read as it stands: the digits of a key end where the separator begins, nothing is
seen inside of a key, and no key begins in a separator. In a longer text the references of a text
are still there, behind a line feed or before one. What is seen across the line feed, as a prefix
on one line with its colon on the next, begins behind all references of the text before it.
-/

namespace InlineAudit

open Detect Text

namespace Detect

/-! ### References in a longer text -/

section Longer

variable {more : List Char} (hmore : ∀ c, more.head? = some c → isWord c = false)

include hmore in
theorem head?_append_not {test : Char → Bool} (htest : ∀ c, isWord c = false → test c = false)
    {rest : List Char} (hrest : ∀ c, rest.head? = some c → test c = false) :
    ∀ c, (rest ++ more).head? = some c → test c = false := by
  cases rest with
  | nil => exact fun c hc => htest c (hmore c hc)
  | cons d rest => exact hrest

include hmore in
theorem RuleDigits.append {digits rest : List Char} (h : RuleDigits digits rest) :
    RuleDigits digits (rest ++ more) where
  enough := h.enough
  digit := h.digit
  maximal := head?_append_not hmore (fun _ hc => (not_word_facts hc).1) h.maximal

theorem RuleDigits.of_append {digits rest : List Char} (h : RuleDigits digits (rest ++ more)) :
    RuleDigits digits rest where
  enough := h.enough
  digit := h.digit
  maximal c hc := h.maximal c (by rw [List.head?_append, hc, Option.some_or])

include hmore in
theorem BeginsPrefixed.append {language : String} {digits text rest : List Char}
    (h : BeginsPrefixed language digits text rest) :
    BeginsPrefixed language digits (text ++ more) (rest ++ more) := by
  obtain ⟨before, after, hbefore, hafter, rfl, hdigits⟩ := h
  exact ⟨before, after, hbefore, hafter, by simp, hdigits.append hmore⟩

/-- A reference of the longer text that ends within the text is one of the text. -/
theorem BeginsPrefixed.of_append {language : String} {digits text rest : List Char}
    (h : BeginsPrefixed language digits (text ++ more) rest)
    (hfits : (text ++ more).length - rest.length ≤ text.length) :
    ∃ rest', BeginsPrefixed language digits text rest' := by
  obtain ⟨before, after, hbefore, hafter, htext, hdigits⟩ := h
  obtain ⟨front, hfront⟩ : ∃ front,
      front = language.toList ++ (before ++ ':' :: (after ++ 'S' :: digits)) := ⟨_, rfl⟩
  have hsplit : text ++ more = front ++ rest := by simp [htext, hfront]
  obtain ⟨rest', rfl, rfl⟩ : ∃ rest', text = front ++ rest' ∧ rest = rest' ++ more := by
    rcases List.append_eq_append_iff.mp hsplit with ⟨middle, hmiddle, hrest⟩ | h
    · have hlength := congrArg List.length hsplit
      obtain rfl : middle = [] := by
        rw [← List.length_eq_zero_iff]
        simp only [hmiddle, List.length_append] at hfits hlength
        omega
      exact ⟨[], by simpa using hmiddle.symm, by simpa using hrest.symm⟩
    · exact h
  exact ⟨rest', before, after, hbefore, hafter, by simp [hfront], hdigits.of_append⟩

include hmore in
theorem prefixedReference_keeps (before : Option Char) (text : List Char) (sight : String × Nat)
    (h : prefixedReference before text = some sight) :
    prefixedReference before (text ++ more) = some sight := by
  obtain ⟨key, size⟩ := sight
  rw [prefixedReference_eq_some_iff] at h ⊢
  obtain ⟨hbefore, language, hlanguage, digits, rest, hbegins, hkey, hsize⟩ := h
  refine ⟨hbefore, language, hlanguage, digits, rest ++ more, hbegins.append hmore, hkey, ?_⟩
  rw [hsize, List.length_append, List.length_append, Nat.add_sub_add_right]

theorem prefixedReference_reaches (before : Option Char) (text : List Char) (key : String)
    (size : Nat) (hnone : prefixedReference before text = none)
    (h : prefixedReference before (text ++ more) = some (key, size)) : text.length < size := by
  obtain ⟨hbefore, language, hlanguage, digits, rest, hbegins, hkey, rfl⟩ :=
    prefixedReference_eq_some_iff.mp h
  refine Nat.lt_of_not_le fun hfits => ?_
  obtain ⟨rest', hbegins'⟩ := hbegins.of_append hfits
  have hsome := prefixedReference_eq_some_iff.mpr
    ⟨hbefore, language, hlanguage, digits, rest', hbegins', hkey, rfl⟩
  rw [hnone] at hsome
  cases hsome

include hmore in
theorem bareReference_keeps (before : Option Char) (text : List Char) (sight : String × Nat)
    (h : bareReference before text = some sight) :
    bareReference before (text ++ more) = some sight := by
  obtain ⟨key, size⟩ := sight
  rw [bareReference_eq_some_iff] at h ⊢
  obtain ⟨hbefore, digits, rest, rfl, hdigits, hend, hkey, hsize⟩ := h
  refine ⟨hbefore, digits, rest ++ more, by simp, hdigits.append hmore, ?_, hkey, ?_⟩
  · cases rest with
    | cons d rest => exact hend
    | nil =>
        cases hc : more.head? with
        | none => rw [List.nil_append, hc]; rfl
        | some c => rw [List.nil_append, hc]; exact hmore c hc
  · rw [hsize, List.length_append, List.length_append, Nat.add_sub_add_right]

include hmore in
/-- The references of a text come first in a longer one. -/
theorem prefixedReference_everyValue_prefix (before : Option Char) (text : List Char) :
    everyValue prefixedReference before text <+:
      everyValue prefixedReference before (text ++ more) :=
  prefixedReference_apart.everyValue_prefix (prefixedReference_keeps hmore)
    prefixedReference_reaches before text

end Longer

/-! ### Keys that are listed -/

/-- A text that lists rule keys: nothing of a word stands between them or around them. -/
inductive Enumerates : List Char → List String → Prop
  | nil : Enumerates [] []
  | skip {c : Char} {text : List Char} {rules : List String} (hc : isWord c = false)
      (htext : Enumerates text rules) : Enumerates (c :: text) rules
  | key (rule : String) {text : List Char} {rules : List String}
      (hend : ∀ c, text.head? = some c → isWord c = false) (htext : Enumerates text rules) :
      Enumerates (rule.toList ++ text) (rule :: rules)

theorem Enumerates.skip_all {separator : List Char} (hseparator : ∀ c ∈ separator, isWord c = false)
    {text : List Char} {rules : List String} (h : Enumerates text rules) :
    Enumerates (separator ++ text) rules := by
  induction separator with
  | nil => exact h
  | cons c separator ih =>
      obtain ⟨hc, hrest⟩ := List.forall_mem_cons.mp hseparator
      exact .skip hc (ih hrest)

section Separated

variable {separator : String} (hne : separator ≠ "")
  (hseparator : ∀ c ∈ separator.toList, isWord c = false)

include hne hseparator

/-- A key, a separator and what that is followed by. -/
theorem Enumerates.key_separated (rule : String) {text : List Char} {rules : List String}
    (h : Enumerates text rules) :
    Enumerates (rule.toList ++ (separator.toList ++ text)) (rule :: rules) := by
  refine .key rule (fun c hc => hseparator c ?_) (h.skip_all hseparator)
  have hsome : separator.toList ≠ [] := fun h => hne (String.toList_eq_nil_iff.mp h)
  obtain ⟨d, rest, hd⟩ := List.exists_cons_of_ne_nil hsome
  rw [hd] at hc ⊢
  obtain rfl : d = c := Option.some.inj hc
  exact List.mem_cons_self

theorem enumerates_join (rules : List String) : Enumerates (join separator rules).toList rules := by
  induction rules with
  | nil => exact .nil
  | cons rule rest ih =>
      cases rest with
      | nil =>
          have hlast : Enumerates (rule.toList ++ []) [rule] := .key rule (by simp) .nil
          rwa [List.append_nil] at hlast
      | cons next rest =>
          rw [join, String.intercalate_cons_cons, String.toList_append, String.toList_append,
            List.append_assoc]
          exact .key_separated hne hseparator rule ih

/-- The same with the separator behind the last key too. -/
theorem enumerates_ended (rules : List String) :
    Enumerates (String.join (rules.map (· ++ separator))).toList rules := by
  induction rules with
  | nil => exact .nil
  | cons rule rest ih =>
      rw [List.map_cons, String.join_cons, String.toList_append, String.toList_append,
        List.append_assoc]
      exact .key_separated hne hseparator rule ih

end Separated

/-- A recogniser of the keys of a kind: it reads each of them, keeps to what it sees if more
follows that does not go on with a word, and begins to read at word characters only. -/
structure ReadsKind (see : Recogniser String) (IsKey : String → Prop) : Prop where
  reads : ReadsKeys see
  seen : ∀ {rule}, IsKey rule → see none rule.toList = some (rule, rule.toList.length)
  keeps : ∀ {more : List Char}, (∀ c, more.head? = some c → isWord c = false) →
    ∀ before text sight, see before text = some sight → see before (text ++ more) = some sight
  unseen : ∀ {c}, isWord c = false → ∀ before text, see before (c :: text) = none

theorem prefixedReference_readsKind : ReadsKind prefixedReference IsPrefixedKey where
  reads := prefixedReference_readsKeys
  seen h := h.seen
  keeps hmore := prefixedReference_keeps hmore
  unseen hc := prefixedReference_unseen (not_word_facts hc).2.1

theorem bareReference_readsKind : ReadsKind bareReference IsBareKey where
  reads := bareReference_readsKeys
  seen h := h.seen
  keeps hmore := bareReference_keeps hmore
  unseen hc before text := by
    have hne : 'S' ≠ _ := (not_word_facts hc).2.2.symm
    simp [bareReference, after?_singleton, hne]

section Kind

variable {see : Recogniser String} {IsKey : String → Prop} (hsee : ReadsKind see IsKey)

include hsee

/-- Behind a character that is part of no word, reading starts anew. -/
theorem ReadsKind.everyValue_skip {c : Char} (hc : isWord c = false) (before : Option Char)
    (text : List Char) : everyValue see before (c :: text) = everyValue see none text := by
  have hboundary : everyValue see (some c) text = everyValue see none text :=
    hsee.reads.blind.everyValue_boundary text hc
  rw [everyValue, hsee.unseen hc, hboundary]
  rfl

theorem ReadsKind.everyValue_key {rule : String} (hrule : IsKey rule) {more : List Char}
    (hmore : ∀ c, more.head? = some c → isWord c = false) :
    everyValue see none (rule.toList ++ more) = rule :: everyValue see none more := by
  have hseen := hsee.seen hrule
  have hread := hsee.keeps hmore _ _ _ hseen
  cases hletters : rule.toList with
  | nil =>
      -- a key has letters, so it is not read out of nothing
      obtain ⟨c, hc, -⟩ := hsee.reads.digit hseen
      rw [hletters] at hc
      cases hc
  | cons d letters =>
      rw [hletters, List.cons_append] at hread
      rw [List.cons_append, hsee.reads.apart.everyValue_eq_cons hread, List.drop_left]
      cases more with
      | nil => rfl
      | cons c more =>
          have hc : isWord c = false := hmore c rfl
          rw [hsee.everyValue_skip hc, hsee.everyValue_skip hc]

/-- Out of a list of keys are read the keys. -/
theorem ReadsKind.everyValue_enumerated {text : List Char} {rules : List String}
    (h : Enumerates text rules) (hrules : ∀ rule ∈ rules, IsKey rule) :
    everyValue see none text = rules := by
  induction h with
  | nil => rfl
  | skip hc _ ih => rw [hsee.everyValue_skip hc, ih hrules]
  | key rule hend _ ih =>
      obtain ⟨hrule, hrest⟩ := List.forall_mem_cons.mp hrules
      rw [hsee.everyValue_key hrule hend, ih hrest]

end Kind

theorem Enumerates.not_isLower {text : List Char} {rules : List String} (h : Enumerates text rules)
    (hrules : ∀ rule ∈ rules, IsBareKey rule) : ∀ c ∈ text, c.isLower = false := by
  induction h with
  | nil => exact List.forall_mem_nil _
  | skip hc _ ih => exact List.forall_mem_cons.mpr ⟨(not_word_facts hc).2.1, ih hrules⟩
  | key rule _ _ ih =>
      obtain ⟨hrule, hrest⟩ := List.forall_mem_cons.mp hrules
      exact fun c hc => (List.mem_append.mp hc).elim (hrule.not_isLower c) (ih hrest c)

/-- Keys of one kind, each once, are extracted from every list of them as they are. -/
theorem ruleReferences_enumerated {text : List Char} {rules : List String}
    (h : Enumerates text rules) (hdistinct : rules.Nodup)
    (hkeys : (∀ rule ∈ rules, IsPrefixedKey rule) ∨ ∀ rule ∈ rules, IsBareKey rule) :
    ruleReferences text = rules := by
  refine ruleReferences_of_values hdistinct ?_
  rcases keys_cases hkeys with ⟨hprefixed, hsome⟩ | hbare
  · exact Or.inl ⟨prefixedReference_readsKind.everyValue_enumerated h hprefixed, hsome⟩
  · exact Or.inr ⟨everyValue_prefixedReference_of_not_isLower (h.not_isLower hbare),
      bareReference_readsKind.everyValue_enumerated h hbare⟩

/-- So what is extracted from a text is extracted again from every list of it. -/
theorem ruleReferences_of_enumerates {payload text : List Char}
    (h : Enumerates text (ruleReferences payload)) : ruleReferences text = ruleReferences payload :=
  ruleReferences_enumerated h (ruleReferences_nodup payload) (ruleReferences_keys payload)

/-! ### What is printed -/

theorem lineFeed_separates : ("\n" ≠ "") ∧ ∀ c ∈ "\n".toList, isWord c = false :=
  ⟨by decide, forall_mem_of_all (by decide +kernel)⟩

theorem comma_separates : (", " ≠ "") ∧ ∀ c ∈ ", ".toList, isWord c = false :=
  ⟨by decide, forall_mem_of_all (by decide +kernel)⟩

/-- The lines that tell the references of a text, or that there are none. -/
theorem ruleReferences_of_lines (payload : String) {write : List String → String}
    (hwrite : ∀ rules, Enumerates (write rules).toList rules)
    (hnone : NoDigit (write [noReferences])) :
    ruleReferences (write (referenceLines payload)).toList = ruleReferences payload.toList := by
  rw [referenceLines]
  split
  · rename_i hempty
    rw [hempty]
    exact ruleReferences_of_no_digit hnone
  · exact ruleReferences_of_enumerates (hwrite _)

/-! ### Longer texts -/

/-- If any reference with a prefix is read in a text, all are extracted that are read. -/
theorem ruleReferences_of_ne_nil {text : List Char}
    (h : everyValue prefixedReference none text ≠ []) :
    ruleReferences text = (everyValue prefixedReference none text).eraseDups := by
  rw [ruleReferences_eq_everyValue, if_neg h]

theorem mem_ruleReferences_of_mem {text : List Char} {rule : String}
    (h : rule ∈ everyValue prefixedReference none text) : rule ∈ ruleReferences text := by
  rw [ruleReferences_of_ne_nil (List.ne_nil_of_mem h), List.mem_eraseDups]
  exact h

theorem IsBareKey.not_isPrefixedKey {rule : String} (hbare : IsBareKey rule) :
    ¬IsPrefixedKey rule := by
  intro hprefixed
  have hread := hprefixed.read
  rw [hbare.not_prefixed] at hread
  cases hread

section Prefixed

variable {text : List Char} (hprefixed : ∀ rule ∈ ruleReferences text, IsPrefixedKey rule)

include hprefixed

/-- References with a prefix are extracted only where they are read. -/
theorem ruleReferences_of_prefixed :
    ruleReferences text = (everyValue prefixedReference none text).eraseDups := by
  rw [ruleReferences_eq_everyValue] at hprefixed ⊢
  split
  · rename_i hnone
    rw [if_pos hnone] at hprefixed
    have hempty : (everyValue bareReference none text).eraseDups = [] := by
      refine List.eq_nil_iff_forall_not_mem.mpr fun rule hrule => ?_
      exact (isBareKey_of_mem (List.mem_eraseDups.mp hrule)).not_isPrefixedKey
        (hprefixed rule hrule)
    rw [hempty, hnone, List.eraseDups_nil]
  · rfl

/-- What follows on the next lines adds references behind those of a text. -/
theorem ruleReferences_prefix (more : List Char) :
    ruleReferences text <+: ruleReferences (text ++ '\n' :: more) := by
  have hmore : ∀ c, ('\n' :: more).head? = some c → isWord c = false := by
    intro c hc
    obtain rfl := Option.some.inj hc
    decide +kernel
  have hlead := prefixedReference_everyValue_prefix hmore none text
  rw [ruleReferences_of_prefixed hprefixed]
  by_cases hnone : everyValue prefixedReference none text = []
  · rw [hnone]
    exact List.nil_prefix
  · rw [ruleReferences_of_ne_nil (hlead.ne_nil hnone)]
    exact eraseDups_prefix hlead

/-- What stands on the lines before takes no reference from a text. -/
theorem mem_ruleReferences_behind (front : List Char) {rule : String}
    (hrule : rule ∈ ruleReferences text) : rule ∈ ruleReferences (front ++ '\n' :: text) := by
  rw [ruleReferences_of_prefixed hprefixed, List.mem_eraseDups] at hrule
  have hsuffix := everyValue_suffix prefixedReference none front '\n' text
  have hboundary : everyValue prefixedReference (some '\n') text =
      everyValue prefixedReference none text :=
    prefixedReference_blind.everyValue_boundary text (by decide +kernel)
  rw [hboundary] at hsuffix
  exact mem_ruleReferences_of_mem (hsuffix.subset hrule)

end Prefixed

/-- What is extracted from a payload is extracted again from each text that tells it: its rules on
lines or with commas between them, the answer of the tool, and what the command prints. -/
structure ReadAgain (payload : Bytes) (rules : List String) : Prop where
  on_lines : ruleReferences (join "\n" rules).toList = rules
  with_commas : ruleReferences (join ", " rules).toList = rules
  answered : ∀ environment, ruleReferences
    (Tools.Request.answer environment (.extractRules (decodeString payload))).text.toList = rules
  printed : ∀ options, ruleReferences
    (Command.Subcommand.extract.execute options [decodeString payload]).output.toList = rules

theorem ruleReferences_readAgain (payload : Bytes) :
    ReadAgain payload (ruleReferences (decode payload)) := by
  have hlines := fun rules => enumerates_join lineFeed_separates.1 lineFeed_separates.2 rules
  have hended := fun rules => enumerates_ended lineFeed_separates.1 lineFeed_separates.2 rules
  have hpayload : (decodeString payload).toList = decode payload := String.toList_ofList
  constructor
  case on_lines => exact ruleReferences_of_enumerates (hlines _)
  case with_commas =>
    exact ruleReferences_of_enumerates (enumerates_join comma_separates.1 comma_separates.2 _)
  case answered =>
    intro environment
    rw [← hpayload]
    exact ruleReferences_of_lines (decodeString payload) hlines (by decide)
  case printed =>
    intro options
    have hjoin : join " " [decodeString payload] = decodeString payload :=
      String.intercalate_singleton
    have hread := ruleReferences_of_lines (decodeString payload) hended (by decide)
    show ruleReferences
      (String.join ((referenceLines (join " " [decodeString payload])).map (· ++ "\n"))).toList = _
    rw [hjoin, ← hpayload]
    exact hread

end Detect

/-- Extraction reads its own output: however the references of a payload are told, they are
extracted again as they were. References with a prefix survive in a longer payload too: with more
on the next lines they come first, in the same order, and with more on the lines before them none
is lost, whatever a prefix and a colon on either side of the line feed make up together. -/
theorem references_read_again (payload : Bytes) :
    ReadAgain payload (ruleReferences (decode payload)) ∧
    ((∀ rule ∈ ruleReferences (decode payload), IsPrefixedKey rule) → ∀ other : Bytes,
      ruleReferences (decode payload) <+: ruleReferences (decode (payload ++ 0x0A :: other)) ∧
      ∀ rule ∈ ruleReferences (decode payload),
        rule ∈ ruleReferences (decode (other ++ 0x0A :: payload))) := by
  refine ⟨ruleReferences_readAgain payload, fun hprefixed other => ⟨?_, fun rule hrule => ?_⟩⟩
  · rw [decode_lineFeed_append, List.append_assoc]
    exact ruleReferences_prefix hprefixed (decode other)
  · rw [decode_lineFeed_append, List.append_assoc]
    exact mem_ruleReferences_behind hprefixed (decode other) hrule

/-- A payload that ends in a prefix, and the colon and the number that might follow. -/
def openPayload : Bytes := encode "S99, java :\n S106, kotlin".toList

def openedNumber : Bytes := encode " : S107, java:S106".toList

/-- Across the line feed a further reference is read, behind the one of the payload. -/
theorem openPayload_read_again :
    (∀ rule ∈ ruleReferences (decode openPayload), IsPrefixedKey rule) ∧
      ruleReferences (decode openPayload) = ["java:S106"] ∧
      ruleReferences (decode (openPayload ++ 0x0A :: openedNumber)) =
        ["java:S106", "kotlin:S107"] ∧
      ["java:S106"] <+: ["java:S106", "kotlin:S107"] ∧
      "java:S106" ∈ ruleReferences (decode (openedNumber ++ 0x0A :: openPayload)) := by
  have htold : ruleReferences (decode openPayload) = ["java:S106"] := by
    rw [openPayload, decode_encode]
    decide +kernel
  have hlonger : ruleReferences (decode (openPayload ++ 0x0A :: openedNumber)) =
      ["java:S106", "kotlin:S107"] := by
    decide +kernel
  have hprefixed : ∀ rule ∈ ruleReferences (decode openPayload), IsPrefixedKey rule := by
    rw [htold]
    intro rule hrule
    obtain rfl := List.mem_singleton.mp hrule
    exact ⟨"java", by decide, ['1', '0', '6'], ⟨by decide, forall_mem_of_all (by decide)⟩,
      by decide⟩
  obtain ⟨hbefore, hbehind⟩ := (references_read_again openPayload).2 hprefixed openedNumber
  rw [htold, hlonger] at hbefore
  exact ⟨hprefixed, htold, hlonger, hbefore, hbehind "java:S106" (by rw [htold]; decide)⟩

end InlineAudit
