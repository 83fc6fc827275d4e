import InlineAudit.Proofs.Json.Grammar

/-!
What is written reads back. The indented form of a value without stray bytes is a JSON text for this
value and for no other (`document_reads_iff`), whichever characters of the basic plane are escaped
beyond those that have to be.
-/

namespace InlineAudit.Json

open Text

/-- No string in a value has a stray byte, which would be written as U+FFFD. -/
inductive Value.Clean : Value → Prop
  | null : Clean .null
  | str (text : String) : Clean (.str text)
  | int (n : Int) : Clean (.int n)
  | bool (b : Bool) : Clean (.bool b)
  | arr {items : List Value} (h : ∀ item ∈ items, Clean item) : Clean (.arr items)
  | obj {fields : List (String × Value)} (h : ∀ field ∈ fields, Clean field.2) : Clean (.obj fields)

/-! ### White space -/

theorem skipSpace_of_space {c : Char} (h : isSpace c = true) (text : List Char) :
    skipSpace (c :: text) = skipSpace text := by
  simp [skipSpace, h]

theorem skipSpace_of_not_space {c : Char} {text : List Char} (h : isSpace c = false) :
    skipSpace (c :: text) = c :: text := by
  simp [skipSpace, h]

theorem skipSpace_newLine (depth : Nat) (text : List Char) :
    skipSpace (newLine depth ++ text) = skipSpace text := by
  have hspace : ∀ c ∈ newLine depth, isSpace c = true := by
    intro c hc
    rcases List.mem_cons.mp hc with rfl | hc
    · rfl
    · rw [(List.mem_replicate.mp hc).2]
      rfl
  exact List.dropWhile_append_of_pos hspace

/-- White space before a value says nothing. -/
theorem Reads.congr {text text' rest : List Char} {value : Value}
    (htext : skipSpace text' = skipSpace text) (h : Reads text value rest) :
    Reads text' value rest := by
  cases h with
  | null h => exact .null (htext.trans h)
  | bool h => exact .bool (htext.trans h)
  | int h hend => exact .int (htext.trans h) hend
  | negative h hend => exact .negative (htext.trans h) hend
  | str h hchars => exact .str (htext.trans h) hchars
  | emptyArr h hclose => exact .emptyArr (htext.trans h) hclose
  | arr h hitems => exact .arr (htext.trans h) hitems
  | emptyObj h hclose => exact .emptyObj (htext.trans h) hclose
  | obj h hfields => exact .obj (htext.trans h) hfields

theorem ReadsField.congr {text text' rest : List Char} {field : String × Value}
    (htext : skipSpace text' = skipSpace text) (h : ReadsField text field rest) :
    ReadsField text' field rest := by
  obtain ⟨hquote, hkey, hcolon, hvalue⟩ := h
  exact .field (htext.trans hquote) hkey hcolon hvalue

/-! ### Strings -/

/-- What is escaped only because a writer chooses to has four digits. -/
def Escapable (extra : List Char) : Prop := ∀ c ∈ extra, c.toNat < 0x10000

theorem documentEscapes_escapable : Escapable documentEscapes := by
  simp [Escapable, documentEscapes]

theorem isCode_hexDigits {n : Nat} (h : n < 0x10000) : IsCode n (hexDigits 4 n) := by
  have hlower : ∀ d < 16, (Nat.digitChar d).toLower = Nat.digitChar d := by decide
  refine ⟨h, ?_⟩
  simp only [hexDigits_four, List.map_cons, List.map_nil]
  rw [hlower _ (by omega), hlower _ (by omega), hlower _ (by omega), hlower _ (by omega)]

theorem codeEscape_reads {c : Char} (h : c.toNat < 0x10000) (rest : List Char) :
    ReadsChar (codeEscape c ++ rest) c rest := by
  have hcode := isCode_hexDigits h
  rw [hexDigits_four] at hcode
  rw [codeEscape, hexDigits_four]
  exact .code hcode

theorem escapeChar_reads {extra : List Char} (hextra : Escapable extra) (c : Char)
    (rest : List Char) : ReadsChar (escapeChar extra c ++ rest) c rest := by
  have hshort {letter d : Char} (hletter : shortEscapes.lookup letter = some d)
      (hc : c.toNat = d.toNat) : ReadsChar ('\\' :: letter :: rest) c rest := by
    rw [Char.toNat_inj.mp hc]
    exact .short hletter
  unfold escapeChar
  split
  · next hmark =>
    rcases (Bool.or_eq_true _ _).mp hmark with hc | hc
    · obtain rfl := eq_of_beq hc
      exact .short rfl
    · obtain rfl := eq_of_beq hc
      exact .short rfl
  · next hmark =>
    split
    · next hc => exact hshort (d := '\x08') rfl hc
    · next hc => exact hshort (d := '\x0c') rfl hc
    · next hc => exact hshort (d := '\n') rfl hc
    · next hc => exact hshort (d := '\r') rfl hc
    · next hc => exact hshort (d := '\t') rfl hc
    · split
      · next hcode =>
        refine codeEscape_reads ?_ rest
        rcases (Bool.or_eq_true _ _).mp hcode with hlow | hc
        · exact Nat.lt_trans (of_decide_eq_true hlow) (by decide)
        · exact hextra c (by simpa using hc)
      · next hcode =>
        simp only [Bool.or_eq_true, beq_iff_eq, not_or] at hmark
        simp only [Bool.or_eq_true, decide_eq_true_eq, not_or] at hcode
        exact .plain (by omega) hmark.1 hmark.2

theorem chars_reads {extra : List Char} (hextra : Escapable extra) (chars rest : List Char) :
    ReadsChars (chars.flatMap (escapeChar extra) ++ '"' :: rest) chars rest := by
  induction chars with
  | nil => exact .close rest
  | cons c chars ih =>
    rw [List.flatMap_cons, List.append_assoc]
    exact .more (escapeChar_reads hextra c _) ih

theorem stringChars_ofString (extra : List Char) (text : String) (rest : List Char) :
    stringChars extra text ++ rest
      = '"' :: (text.toList.flatMap (escapeChar extra) ++ '"' :: rest) := by
  simp [stringChars, Raw.ofString, List.flatMap_map, escapeSymbol]

theorem stringChars_reads {extra : List Char} (hextra : Escapable extra) (text : String)
    (rest : List Char) : Reads (stringChars extra text ++ rest) (.str text) rest := by
  have hread := chars_reads hextra text.toList rest
  rw [stringChars_ofString]
  refine (String.ofList_toList (s := text)) ▸ .str (skipSpace_of_not_space rfl) ?_
  simpa using hread

/-! ### Numbers -/

theorem isSpace_of_isDigit {c : Char} (h : c.isDigit = true) : isSpace c = false := by
  cases hspace : isSpace c with
  | false => rfl
  | true =>
    simp only [isSpace, Bool.or_eq_true, beq_iff_eq] at hspace
    rcases hspace with ((rfl | rfl) | rfl) | rfl <;> cases h

theorem intChars_ofNat (n : Nat) : intChars (Int.ofNat n) = Nat.toDigits 10 n := by
  rw [intChars, Int.toString_eq_repr, Int.repr_eq_if]
  simp [Nat.toList_repr]

theorem intChars_negSucc (n : Nat) : intChars (Int.negSucc n) = '-' :: Nat.toDigits 10 (n + 1) := by
  rw [intChars, Int.toString_eq_repr, Int.repr_eq_if]
  simp [Nat.toList_repr]

theorem intChars_reads (n : Int) {rest : List Char} (hrest : EndsNumber rest) :
    Reads (intChars n ++ rest) (.int n) rest := by
  cases n with
  | ofNat n =>
    obtain ⟨c, digits, hdigits, hc⟩ := toDigits_eq_cons n
    refine .int ?_ hrest
    rw [intChars_ofNat, hdigits]
    exact skipSpace_of_not_space (isSpace_of_isDigit hc)
  | negSucc n =>
    rw [intChars_negSucc]
    exact .negative (skipSpace_of_not_space rfl) hrest

theorem endsNumber_cons {c : Char} (h : c.isDigit = false ∧ c ∉ ['.', 'e', 'E'])
    (rest : List Char) : EndsNumber (c :: rest) := by
  intro d hd
  obtain rfl : c = d := by simpa using hd
  exact h

theorem endsNumber_newLine (depth : Nat) (rest : List Char) : EndsNumber (newLine depth ++ rest) :=
  endsNumber_cons (by decide) _

/-! ### Values -/

/-- Wherever it stands, a value at a nesting depth reads as itself. -/
def ReadsBack (extra : List Char) (depth : Nat) (value : Value) : Prop :=
  ∀ rest, EndsNumber rest → Reads (indented extra depth value ++ rest) value rest

section Indented

variable {extra : List Char} {depth : Nat}

theorem endsNumber_indentedItems (items : List Value) (outer : Nat) (rest : List Char) :
    EndsNumber (indentedItems extra depth items ++ (newLine outer ++ rest)) := by
  cases items with
  | nil => exact endsNumber_newLine outer rest
  | cons item items =>
    rw [indentedItems]
    exact endsNumber_cons (by decide) _

theorem endsNumber_indentedFields (fields : List (String × Value)) (outer : Nat)
    (rest : List Char) :
    EndsNumber (indentedFields extra depth fields ++ (newLine outer ++ rest)) := by
  cases fields with
  | nil => exact endsNumber_newLine outer rest
  | cons field fields =>
    rw [indentedFields]
    exact endsNumber_cons (by decide) _

/-- Items one below the other, up to the bracket. -/
theorem items_read {item : Value} {items : List Value}
    (h : ∀ i ∈ item :: items, ReadsBack extra depth i) (outer : Nat) (rest : List Char) :
    ReadsItems (newLine depth ++ (indented extra depth item ++ (indentedItems extra depth items
      ++ (newLine outer ++ ']' :: rest)))) (item :: items) rest := by
  induction items generalizing item with
  | nil =>
    have hitem := h item List.mem_cons_self _ (endsNumber_newLine outer (']' :: rest))
    refine .last (hitem.congr (skipSpace_newLine depth _)) ?_
    rw [skipSpace_newLine]
    exact skipSpace_of_not_space rfl
  | cons next items ih =>
    have hitem := h item List.mem_cons_self (indentedItems extra depth (next :: items) ++ _)
      (endsNumber_indentedItems (next :: items) outer (']' :: rest))
    refine .more (hitem.congr (skipSpace_newLine depth _)) ?_
      (ih fun i hi => h i (List.mem_cons_of_mem _ hi))
    rw [indentedItems]
    simp only [List.cons_append, List.append_assoc]
    exact skipSpace_of_not_space rfl

theorem field_reads (hextra : Escapable extra) (key : String) {value : Value}
    (h : ReadsBack extra depth value) {rest : List Char} (hrest : EndsNumber rest) :
    ReadsField (newLine depth ++ (stringChars extra key ++ (':' :: ' ' ::
      (indented extra depth value ++ rest)))) (key, value) rest := by
  have hvalue : Reads (' ' :: (indented extra depth value ++ rest)) value rest :=
    (h rest hrest).congr (skipSpace_of_space rfl _)
  have hkey := chars_reads hextra key.toList (':' :: ' ' :: (indented extra depth value ++ rest))
  have hfield :=
    ReadsField.field (skipSpace_of_not_space rfl) hkey (skipSpace_of_not_space rfl) hvalue
  rw [String.ofList_toList, ← stringChars_ofString] at hfield
  exact hfield.congr (skipSpace_newLine depth _)

/-- Fields one below the other, up to the brace. -/
theorem fields_read (hextra : Escapable extra) {key : String} {value : Value}
    {fields : List (String × Value)}
    (h : ∀ field ∈ (key, value) :: fields, ReadsBack extra depth field.2) (outer : Nat)
    (rest : List Char) :
    ReadsFields (newLine depth ++ (stringChars extra key ++ (':' :: ' ' ::
      (indented extra depth value ++ (indentedFields extra depth fields
        ++ (newLine outer ++ '\x7d' :: rest)))))) ((key, value) :: fields) rest := by
  induction fields generalizing key value with
  | nil =>
    refine .last (field_reads hextra key (h _ List.mem_cons_self)
      (endsNumber_newLine outer ('\x7d' :: rest))) ?_
    rw [indentedFields, List.nil_append, skipSpace_newLine]
    exact skipSpace_of_not_space rfl
  | cons next fields ih =>
    obtain ⟨nextKey, nextValue⟩ := next
    refine .more (field_reads hextra key (h _ List.mem_cons_self)
      (endsNumber_indentedFields ((nextKey, nextValue) :: fields) outer ('\x7d' :: rest))) ?_
      (ih fun field hfield => h field (List.mem_cons_of_mem _ hfield))
    rw [indentedFields]
    simp only [List.cons_append, List.append_assoc]
    exact skipSpace_of_not_space rfl

end Indented

theorem Value.Clean.readsBack {extra : List Char} (hextra : Escapable extra) {value : Value}
    (h : value.Clean) (depth : Nat) : ReadsBack extra depth value := by
  induction h generalizing depth with
  | null =>
    intro rest _
    exact .null (skipSpace_of_not_space rfl)
  | str text =>
    intro rest _
    exact stringChars_reads hextra text rest
  | int n =>
    intro rest hrest
    exact intChars_reads n hrest
  | bool b =>
    intro rest _
    refine .bool ?_
    cases b <;> exact skipSpace_of_not_space rfl
  | @arr items h ih =>
    intro rest _
    cases items with
    | nil => exact .emptyArr (skipSpace_of_not_space rfl) (skipSpace_of_not_space rfl)
    | cons item items =>
      have hitems := items_read (fun i hi => ih i hi (depth + 1)) depth rest
      refine .arr ?_ hitems
      rw [indented]
      simp only [List.cons_append, List.append_assoc, List.nil_append]
      exact skipSpace_of_not_space rfl
  | @obj fields h ih =>
    intro rest _
    match fields with
    | [] => exact .emptyObj (skipSpace_of_not_space rfl) (skipSpace_of_not_space rfl)
    | (key, value) :: fields =>
      have hfields := fields_read hextra (fun f hf => ih f hf (depth + 1)) depth rest
      refine .obj ?_ hfields
      rw [indented]
      simp only [List.cons_append, List.append_assoc, List.nil_append]
      exact skipSpace_of_not_space rfl

/-- A document with a line break at its end is a text for its value, and for nothing else. -/
theorem document_reads_iff {value other : Value} (h : value.Clean) {rest : List Char} :
    Reads (document value ++ "\n").toList other rest ↔ other = value ∧ rest = ['\n'] := by
  have htext : (document value ++ "\n").toList = indented documentEscapes 0 value ++ ['\n'] := by
    simp [document]
  have hread := h.readsBack documentEscapes_escapable 0 ['\n'] (endsNumber_cons (by decide) [])
  rw [htext]
  constructor
  · intro hother
    exact hother.unique hread
  · rintro ⟨rfl, rfl⟩
    exact hread

example : document (.str "say \"<hi>\"\n\u2028\\ \x07é") =
    "\"say \\\"\\u003chi\\u003e\\\"\\n\\u2028\\\\ \\u0007é\"" := by
  decide

end InlineAudit.Json
