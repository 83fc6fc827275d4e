import InlineAudit.Json
import InlineAudit.Proofs.Lists

/-!
The grammar of JSON texts, for values whose numbers are integers. `Reads text value rest` says that
a text begins with a value, perhaps behind white space, and goes on with `rest`. Strings may use any
escape, digits in hexadecimal any case, and characters beyond the basic plane two escapes in a row.
A number goes on as long as it can, so what follows it must not look like more of it. Main
statement: a text begins with one value at most (`Reads.unique`).
-/

namespace InlineAudit.Json

open Text

/-! ### Grammar -/

/-- White space between the parts of a text. -/
def isSpace (c : Char) : Bool := c == ' ' || c == '\t' || c == '\n' || c == '\r'

def skipSpace (text : List Char) : List Char := text.dropWhile isSpace

/-- The letters that stand for a character behind a backslash. -/
def shortEscapes : List (Char × Char) :=
  [('"', '"'), ('\\', '\\'), ('/', '/'), ('b', '\x08'), ('f', '\x0c'), ('n', '\n'), ('r', '\r'),
    ('t', '\t')]

/-- Four hexadecimal digits of a number, in any case. -/
def IsCode (n : Nat) (digits : List Char) : Prop :=
  n < 0x10000 ∧ digits.map Char.toLower = hexDigits 4 n

/-- One character inside a string. -/
inductive ReadsChar : (text : List Char) → Char → (rest : List Char) → Prop
  | plain {c : Char} {rest : List Char} (hvisible : 0x20 ≤ c.toNat) (hquote : c ≠ '"')
      (hslash : c ≠ '\\') : ReadsChar (c :: rest) c rest
  | short {letter c : Char} {rest : List Char} (hletter : shortEscapes.lookup letter = some c) :
      ReadsChar ('\\' :: letter :: rest) c rest
  | code {c d₁ d₂ d₃ d₄ : Char} {rest : List Char} (hcode : IsCode c.toNat [d₁, d₂, d₃, d₄]) :
      ReadsChar ('\\' :: 'u' :: d₁ :: d₂ :: d₃ :: d₄ :: rest) c rest
  | pair {c d₁ d₂ d₃ d₄ e₁ e₂ e₃ e₄ : Char} {high low : Nat} {rest : List Char}
      (hhigh : IsCode (0xD800 + high) [d₁, d₂, d₃, d₄])
      (hlow : IsCode (0xDC00 + low) [e₁, e₂, e₃, e₄])
      (hhigh_lt : high < 0x400) (hlow_lt : low < 0x400)
      (hc : c.toNat = 0x10000 + high * 0x400 + low) :
      ReadsChar ('\\' :: 'u' :: d₁ :: d₂ :: d₃ :: d₄ :: '\\' :: 'u' :: e₁ :: e₂ :: e₃ :: e₄ :: rest)
        c rest

/-- The characters of a string up to the quote that closes it. -/
inductive ReadsChars : (text : List Char) → List Char → (rest : List Char) → Prop
  | close (rest : List Char) : ReadsChars ('"' :: rest) [] rest
  | more {text middle rest chars : List Char} {c : Char} (hc : ReadsChar text c middle)
      (h : ReadsChars middle chars rest) : ReadsChars text (c :: chars) rest

/-- What follows an integer does not go on with it. -/
def EndsNumber (rest : List Char) : Prop :=
  ∀ c ∈ rest.head?, c.isDigit = false ∧ c ∉ ['.', 'e', 'E']

mutual

/-- A value at the head of a text, perhaps behind white space. -/
inductive Reads : (text : List Char) → Value → (rest : List Char) → Prop
  | null {text rest : List Char} (h : skipSpace text = nullChars ++ rest) : Reads text .null rest
  | bool {text rest : List Char} {b : Bool} (h : skipSpace text = boolChars b ++ rest) :
      Reads text (.bool b) rest
  | int {text rest : List Char} {n : Nat} (h : skipSpace text = Nat.toDigits 10 n ++ rest)
      (hend : EndsNumber rest) : Reads text (.int n) rest
  | negative {text rest : List Char} {n : Nat}
      (h : skipSpace text = '-' :: Nat.toDigits 10 n ++ rest)
      (hend : EndsNumber rest) : Reads text (.int (-n)) rest
  | str {text inner rest chars : List Char} (h : skipSpace text = '"' :: inner)
      (hchars : ReadsChars inner chars rest) : Reads text (.str (String.ofList chars)) rest
  | emptyArr {text inner rest : List Char} (h : skipSpace text = '[' :: inner)
      (hclose : skipSpace inner = ']' :: rest) : Reads text (.arr []) rest
  | arr {text inner rest : List Char} {items : List Value} (h : skipSpace text = '[' :: inner)
      (hitems : ReadsItems inner items rest) : Reads text (.arr items) rest
  | emptyObj {text inner rest : List Char} (h : skipSpace text = '\x7b' :: inner)
      (hclose : skipSpace inner = '\x7d' :: rest) : Reads text (.obj []) rest
  | obj {text inner rest : List Char} {fields : List (String × Value)}
      (h : skipSpace text = '\x7b' :: inner) (hfields : ReadsFields inner fields rest) :
      Reads text (.obj fields) rest

/-- The items of an array, one at least, up to the bracket that closes it. -/
inductive ReadsItems : (text : List Char) → List Value → (rest : List Char) → Prop
  | last {text behind rest : List Char} {item : Value} (hitem : Reads text item behind)
      (hclose : skipSpace behind = ']' :: rest) : ReadsItems text [item] rest
  | more {text behind next rest : List Char} {item : Value} {items : List Value}
      (hitem : Reads text item behind) (hcomma : skipSpace behind = ',' :: next)
      (h : ReadsItems next items rest) : ReadsItems text (item :: items) rest

/-- A key and its value. -/
inductive ReadsField : (text : List Char) → String × Value → (rest : List Char) → Prop
  | field {text inner named chars next rest : List Char} {value : Value}
      (hquote : skipSpace text = '"' :: inner) (hkey : ReadsChars inner chars named)
      (hcolon : skipSpace named = ':' :: next) (hvalue : Reads next value rest) :
      ReadsField text (String.ofList chars, value) rest

/-- The fields of an object, one at least, up to the brace that closes it. -/
inductive ReadsFields : (text : List Char) → List (String × Value) → (rest : List Char) → Prop
  | last {text behind rest : List Char} {field : String × Value}
      (hfield : ReadsField text field behind) (hclose : skipSpace behind = '\x7d' :: rest) :
      ReadsFields text [field] rest
  | more {text behind next rest : List Char} {field : String × Value}
      {fields : List (String × Value)} (hfield : ReadsField text field behind)
      (hcomma : skipSpace behind = ',' :: next) (h : ReadsFields next fields rest) :
      ReadsFields text (field :: fields) rest

end

/-! ### Strings -/

theorem hexDigits_four (n : Nat) :
    hexDigits 4 n = [Nat.digitChar (n / 16 / 16 / 16 % 16), Nat.digitChar (n / 16 / 16 % 16),
      Nat.digitChar (n / 16 % 16), Nat.digitChar (n % 16)] := rfl

theorem digitChar_inj : ∀ a < 16, ∀ b < 16, Nat.digitChar a = Nat.digitChar b → a = b := by decide

theorem IsCode.unique {n m : Nat} {digits : List Char} (hn : IsCode n digits)
    (hm : IsCode m digits) : n = m := by
  have hdigits := hn.2.symm.trans hm.2
  have hn := hn.1
  have hm := hm.1
  simp only [hexDigits_four, List.cons.injEq, and_true] at hdigits
  obtain ⟨h₁, h₂, h₃, h₄⟩ := hdigits
  have h₁ := digitChar_inj _ (by omega) _ (by omega) h₁
  have h₂ := digitChar_inj _ (by omega) _ (by omega) h₂
  have h₃ := digitChar_inj _ (by omega) _ (by omega) h₃
  have h₄ := digitChar_inj _ (by omega) _ (by omega) h₄
  omega

theorem u_not_short (c : Char) : shortEscapes.lookup 'u' ≠ some c := by
  have hnone : shortEscapes.lookup 'u' = none := by decide
  simp [hnone]

/-- No character has a code point among the halves of pairs. -/
theorem toNat_ne_high (c : Char) {high : Nat} (h : high < 0x400) : c.toNat ≠ 0xD800 + high := by
  have hvalid := c.valid
  intro heq
  have hval : c.val.toNat = 0xD800 + high := heq
  simp only [UInt32.isValidChar, Nat.isValidChar, hval] at hvalid
  omega

theorem ReadsChar.unique {text rest rest' : List Char} {c c' : Char} (h : ReadsChar text c rest)
    (h' : ReadsChar text c' rest') : c = c' ∧ rest = rest' := by
  -- A backslash never stands for itself, `u` is no short escape and half a pair is no character.
  cases h with
  | plain hvisible hquote hslash =>
    cases h' with
    | plain => exact ⟨rfl, rfl⟩
    | short => exact absurd rfl hslash
    | code => exact absurd rfl hslash
    | pair => exact absurd rfl hslash
  | short hletter =>
    cases h' with
    | plain _ _ hslash => exact absurd rfl hslash
    | short hletter' =>
      exact ⟨Option.some.inj (hletter.symm.trans hletter'), rfl⟩
    | code => exact absurd hletter (u_not_short c)
    | pair => exact absurd hletter (u_not_short c)
  | code hcode =>
    cases h' with
    | plain _ _ hslash => exact absurd rfl hslash
    | short hletter => exact absurd hletter (u_not_short c')
    | code hcode' => exact ⟨Char.toNat_inj.mp (hcode.unique hcode'), rfl⟩
    | pair hhigh _ hlt => exact absurd (hcode.unique hhigh) (toNat_ne_high c hlt)
  | pair hhigh hlow hhigh_lt hlow_lt hc =>
    cases h' with
    | plain _ _ hslash => exact absurd rfl hslash
    | short hletter => exact absurd hletter (u_not_short c')
    | code hcode => exact absurd (hcode.unique hhigh) (toNat_ne_high c' hhigh_lt)
    | pair hhigh' hlow' _ _ hc' =>
      have hsame := hhigh.unique hhigh'
      have hsame' := hlow.unique hlow'
      exact ⟨Char.toNat_inj.mp (by omega), rfl⟩

/-- The quote that closes a string is no character in it. -/
theorem not_readsChar_quote {text rest : List Char} {c : Char} :
    ¬ReadsChar ('"' :: text) c rest := by
  intro h
  cases h with
  | plain _ hquote => exact hquote rfl

theorem ReadsChars.unique {text rest rest' chars chars' : List Char}
    (h : ReadsChars text chars rest) (h' : ReadsChars text chars' rest') :
    chars = chars' ∧ rest = rest' := by
  induction h generalizing chars' with
  | close rest =>
    cases h' with
    | close => exact ⟨rfl, rfl⟩
    | more hc' => exact absurd hc' not_readsChar_quote
  | more hc h ih =>
    cases h' with
    | close => exact absurd hc not_readsChar_quote
    | more hc' h' =>
      obtain ⟨rfl, rfl⟩ := hc.unique hc'
      obtain ⟨rfl, rfl⟩ := ih h'
      exact ⟨rfl, rfl⟩

/-! ### Numbers -/

/-- The digits of a number are told from what follows them. -/
theorem toDigits_inj {n m : Nat} {rest rest' : List Char}
    (h : Nat.toDigits 10 n ++ rest = Nat.toDigits 10 m ++ rest') (hrest : EndsNumber rest)
    (hrest' : EndsNumber rest') : n = m ∧ rest = rest' := by
  have hread (k : Nat) {more : List Char} (hmore : EndsNumber more) :
      (Nat.toDigits 10 k ++ more).takeWhile Char.isDigit = Nat.toDigits 10 k
        ∧ (Nat.toDigits 10 k ++ more).dropWhile Char.isDigit = more :=
    span_append_of_stop (fun _ => Nat.isDigit_of_mem_toDigits (by decide) (by decide))
      fun c hc => (hmore c hc).1
  have hdigits : Nat.toDigits 10 n = Nat.toDigits 10 m := by
    rw [← (hread n hrest).1, h, (hread m hrest').1]
  have hnumber := congrArg (Nat.ofDigitChars 10 · 0) hdigits
  simp only [Nat.ofDigitChars_toDigits (b := 10) (by decide) (by decide)] at hnumber
  exact ⟨hnumber, by rw [← (hread n hrest).2, h, (hread m hrest').2]⟩

theorem toDigits_eq_cons (n : Nat) :
    ∃ c more, Nat.toDigits 10 n = c :: more ∧ c.isDigit = true := by
  cases hdigits : Nat.toDigits 10 n with
  | nil => exact absurd hdigits Nat.toDigits_ne_nil
  | cons c more =>
    have hc : c ∈ Nat.toDigits 10 n := hdigits ▸ List.mem_cons_self
    exact ⟨c, more, rfl, Nat.isDigit_of_mem_toDigits (by decide) (by decide) hc⟩

/-- A sign is no digit. -/
theorem toDigits_append_ne_minus {n : Nat} {rest more : List Char} :
    Nat.toDigits 10 n ++ rest ≠ '-' :: more := by
  obtain ⟨c, digits, hdigits, hc⟩ := toDigits_eq_cons n
  rw [hdigits]
  rintro ⟨⟩
  cases hc

/-! ### Values -/

/-- What a value is. -/
inductive Kind where
  | null
  | bool
  | int
  | str
  | arr
  | obj

def Value.kind : Value → Kind
  | null => .null
  | bool _ => .bool
  | int _ => .int
  | str _ => .str
  | arr _ => .arr
  | obj _ => .obj

/-- What a value is, told by its first character. -/
def kindOf? (c : Char) : Option Kind :=
  if c.isDigit then some .int
  else match c with
    | 'n' => some .null
    | 't' => some .bool
    | 'f' => some .bool
    | '-' => some .int
    | '"' => some .str
    | '[' => some .arr
    | '\x7b' => some .obj
    | _ => none

theorem Reads.head {text rest : List Char} {value : Value} (h : Reads text value rest) :
    ∃ c more, skipSpace text = c :: more ∧ kindOf? c = some value.kind := by
  cases h with
  | null h => exact ⟨_, _, h, rfl⟩
  | @bool _ _ b h => cases b <;> exact ⟨_, _, h, rfl⟩
  | @int _ _ n h _ =>
    obtain ⟨c, digits, hdigits, hc⟩ := toDigits_eq_cons n
    rw [hdigits] at h
    exact ⟨c, _, h, by simp [kindOf?, hc, Value.kind]⟩
  | negative h hend => exact ⟨_, _, h, rfl⟩
  | str h => exact ⟨_, _, h, rfl⟩
  | emptyArr h => exact ⟨_, _, h, rfl⟩
  | arr h => exact ⟨_, _, h, rfl⟩
  | emptyObj h => exact ⟨_, _, h, rfl⟩
  | obj h => exact ⟨_, _, h, rfl⟩

theorem Reads.kind_eq {text rest rest' : List Char} {value value' : Value}
    (h : Reads text value rest) (h' : Reads text value' rest') : value.kind = value'.kind := by
  obtain ⟨c, more, htext, hc⟩ := h.head
  obtain ⟨c', more', htext', hc'⟩ := h'.head
  obtain ⟨rfl, -⟩ := List.cons.inj (htext.symm.trans htext')
  exact Option.some.inj (hc.symm.trans hc')

theorem Reads.not_of_closed {text rest more : List Char} {value : Value}
    (h : Reads text value rest) : skipSpace text ≠ ']' :: more := by
  obtain ⟨c, more', htext, hc⟩ := h.head
  rw [htext]
  rintro ⟨⟩
  cases hc

theorem ReadsItems.not_of_closed {text rest more : List Char} {items : List Value}
    (h : ReadsItems text items rest) : skipSpace text ≠ ']' :: more := by
  cases h with
  | last hitem => exact hitem.not_of_closed
  | more hitem => exact hitem.not_of_closed

theorem ReadsFields.not_of_closed {text rest more : List Char} {fields : List (String × Value)}
    (h : ReadsFields text fields rest) : skipSpace text ≠ '\x7d' :: more := by
  cases h with
  | last hfield =>
    obtain ⟨hquote, -, -, -⟩ := hfield
    simp [hquote]
  | more hfield =>
    obtain ⟨hquote, -, -, -⟩ := hfield
    simp [hquote]

mutual

/-- A text begins with one value at most. -/
theorem Reads.unique {text rest rest' : List Char} {value value' : Value}
    (h : Reads text value rest) (h' : Reads text value' rest') : value = value' ∧ rest = rest' := by
  -- The first character tells what a value is, so values of two kinds are out at once.
  have hkind := h.kind_eq h'
  cases h with
  | null h =>
    cases h' with
    | null h' => exact ⟨rfl, List.append_cancel_left (h.symm.trans h')⟩
    | _ => cases hkind
  | @bool _ _ b h =>
    cases h' with
    | @bool _ _ b' h' =>
      have htext := h.symm.trans h'
      cases b <;> cases b' <;> simp_all [boolChars]
    | _ => cases hkind
  | int h hend =>
    cases h' with
    | int h' hend' =>
      obtain ⟨rfl, rfl⟩ := toDigits_inj (h.symm.trans h') hend hend'
      exact ⟨rfl, rfl⟩
    | negative h' => exact absurd (h.symm.trans h') toDigits_append_ne_minus
    | _ => cases hkind
  | negative h hend =>
    cases h' with
    | int h' => exact absurd (h'.symm.trans h) toDigits_append_ne_minus
    | negative h' hend' =>
      obtain ⟨-, hdigits⟩ := List.cons.inj (h.symm.trans h')
      obtain ⟨rfl, rfl⟩ := toDigits_inj hdigits hend hend'
      exact ⟨rfl, rfl⟩
    | _ => cases hkind
  | str h hchars =>
    cases h' with
    | str h' hchars' =>
      obtain ⟨-, rfl⟩ := List.cons.inj (h.symm.trans h')
      obtain ⟨rfl, rfl⟩ := hchars.unique hchars'
      exact ⟨rfl, rfl⟩
    | _ => cases hkind
  | emptyArr h hclose =>
    cases h' with
    | emptyArr h' hclose' =>
      obtain ⟨-, rfl⟩ := List.cons.inj (h.symm.trans h')
      exact ⟨rfl, (List.cons.inj (hclose.symm.trans hclose')).2⟩
    | arr h' hitems' =>
      obtain ⟨-, rfl⟩ := List.cons.inj (h.symm.trans h')
      exact absurd hclose hitems'.not_of_closed
    | _ => cases hkind
  | arr h hitems =>
    cases h' with
    | emptyArr h' hclose' =>
      obtain ⟨-, rfl⟩ := List.cons.inj (h.symm.trans h')
      exact absurd hclose' hitems.not_of_closed
    | arr h' hitems' =>
      obtain ⟨-, rfl⟩ := List.cons.inj (h.symm.trans h')
      obtain ⟨rfl, rfl⟩ := hitems.unique hitems'
      exact ⟨rfl, rfl⟩
    | _ => cases hkind
  | emptyObj h hclose =>
    cases h' with
    | emptyObj h' hclose' =>
      obtain ⟨-, rfl⟩ := List.cons.inj (h.symm.trans h')
      exact ⟨rfl, (List.cons.inj (hclose.symm.trans hclose')).2⟩
    | obj h' hfields' =>
      obtain ⟨-, rfl⟩ := List.cons.inj (h.symm.trans h')
      exact absurd hclose hfields'.not_of_closed
    | _ => cases hkind
  | obj h hfields =>
    cases h' with
    | emptyObj h' hclose' =>
      obtain ⟨-, rfl⟩ := List.cons.inj (h.symm.trans h')
      exact absurd hclose' hfields.not_of_closed
    | obj h' hfields' =>
      obtain ⟨-, rfl⟩ := List.cons.inj (h.symm.trans h')
      obtain ⟨rfl, rfl⟩ := hfields.unique hfields'
      exact ⟨rfl, rfl⟩
    | _ => cases hkind

theorem ReadsItems.unique {text rest rest' : List Char} {items items' : List Value}
    (h : ReadsItems text items rest) (h' : ReadsItems text items' rest') :
    items = items' ∧ rest = rest' := by
  cases h with
  | last hitem hclose =>
    cases h' with
    | last hitem' hclose' =>
      obtain ⟨rfl, rfl⟩ := hitem.unique hitem'
      exact ⟨rfl, (List.cons.inj (hclose.symm.trans hclose')).2⟩
    | more hitem' hcomma' =>
      obtain ⟨rfl, rfl⟩ := hitem.unique hitem'
      cases hclose.symm.trans hcomma'
  | more hitem hcomma h =>
    cases h' with
    | last hitem' hclose' =>
      obtain ⟨rfl, rfl⟩ := hitem.unique hitem'
      cases hcomma.symm.trans hclose'
    | more hitem' hcomma' h' =>
      obtain ⟨rfl, rfl⟩ := hitem.unique hitem'
      obtain ⟨-, rfl⟩ := List.cons.inj (hcomma.symm.trans hcomma')
      obtain ⟨rfl, rfl⟩ := h.unique h'
      exact ⟨rfl, rfl⟩

theorem ReadsField.unique {text rest rest' : List Char} {field field' : String × Value}
    (h : ReadsField text field rest) (h' : ReadsField text field' rest') :
    field = field' ∧ rest = rest' := by
  cases h with
  | field hquote hkey hcolon hvalue =>
    cases h' with
    | field hquote' hkey' hcolon' hvalue' =>
      obtain ⟨-, rfl⟩ := List.cons.inj (hquote.symm.trans hquote')
      obtain ⟨rfl, rfl⟩ := hkey.unique hkey'
      obtain ⟨-, rfl⟩ := List.cons.inj (hcolon.symm.trans hcolon')
      obtain ⟨rfl, rfl⟩ := hvalue.unique hvalue'
      exact ⟨rfl, rfl⟩

theorem ReadsFields.unique {text rest rest' : List Char} {fields fields' : List (String × Value)}
    (h : ReadsFields text fields rest) (h' : ReadsFields text fields' rest') :
    fields = fields' ∧ rest = rest' := by
  cases h with
  | last hfield hclose =>
    cases h' with
    | last hfield' hclose' =>
      obtain ⟨rfl, rfl⟩ := hfield.unique hfield'
      exact ⟨rfl, (List.cons.inj (hclose.symm.trans hclose')).2⟩
    | more hfield' hcomma' =>
      obtain ⟨rfl, rfl⟩ := hfield.unique hfield'
      cases hclose.symm.trans hcomma'
  | more hfield hcomma h =>
    cases h' with
    | last hfield' hclose' =>
      obtain ⟨rfl, rfl⟩ := hfield.unique hfield'
      cases hcomma.symm.trans hclose'
    | more hfield' hcomma' h' =>
      obtain ⟨rfl, rfl⟩ := hfield.unique hfield'
      obtain ⟨-, rfl⟩ := List.cons.inj (hcomma.symm.trans hcomma')
      obtain ⟨rfl, rfl⟩ := h.unique h'
      exact ⟨rfl, rfl⟩

end

end InlineAudit.Json
