import InlineAudit.Text.Symbol
import Mathlib.Data.List.Lex

/-!
Reading bytes as text. A character is either one byte below 0x80, which is its code point, or a
lead byte with tail bytes, all of them from 0x80 on. So a line feed among the bytes is a line feed
of the text and nothing else is, an encoded text reads back as itself, and texts have the order of
their bytes.
-/

namespace InlineAudit.Text

theorem within_iff {lo hi b : UInt8} :
    within lo hi b = true ↔ lo.toNat ≤ b.toNat ∧ b.toNat ≤ hi.toNat := by
  simp [within, UInt8.le_iff_toNat_le]

/-- The second byte has narrower bounds behind two of the lead bytes of its length. -/
theorem within_second_iff {a b x y low high : UInt8} (hlow : 0x80 ≤ low.toNat)
    (hhigh : high.toNat ≤ 0xBF) :
    within (if a = x then low else 0x80) (if a = y then high else 0xBF) b = true ↔
      (0x80 ≤ b.toNat ∧ b.toNat ≤ 0xBF) ∧ (a.toNat = x.toNat → low.toNat ≤ b.toNat) ∧
        (a.toNat = y.toNat → b.toNat ≤ high.toNat) := by
  rw [within_iff, UInt8.toNat_inj, UInt8.toNat_inj]
  have h80 : (0x80 : UInt8).toNat = 0x80 := rfl
  have hBF : (0xBF : UInt8).toNat = 0xBF := rfl
  split <;> split <;> grind

theorem toNat_ofNat_of_valid (n : Nat) (h : n.isValidChar) : (Char.ofNat n).toNat = n := by
  rw [Char.ofNat, dif_pos h]
  rfl

/-- Characters of more than one byte: the lead byte, the tail bytes and the code point. -/
inductive Multibyte : UInt8 → Bytes → Nat → Prop
  | two {a b : UInt8} {n : Nat} (ha : 0xC2 ≤ a.toNat ∧ a.toNat ≤ 0xDF)
      (hb : 0x80 ≤ b.toNat ∧ b.toNat ≤ 0xBF)
      (hn : n = (a.toNat - 0xC0) * 0x40 + tailBits b) : Multibyte a [b] n
  | three {a b c : UInt8} {n : Nat} (ha : 0xE0 ≤ a.toNat ∧ a.toNat ≤ 0xEF)
      (hb : 0x80 ≤ b.toNat ∧ b.toNat ≤ 0xBF) (hc : 0x80 ≤ c.toNat ∧ c.toNat ≤ 0xBF)
      (hlow : a.toNat = 0xE0 → 0xA0 ≤ b.toNat) (hhigh : a.toNat = 0xED → b.toNat ≤ 0x9F)
      (hn : n = (a.toNat - 0xE0) * 0x1000 + tailBits b * 0x40 + tailBits c) :
      Multibyte a [b, c] n
  | four {a b c d : UInt8} {n : Nat} (ha : 0xF0 ≤ a.toNat ∧ a.toNat ≤ 0xF4)
      (hb : 0x80 ≤ b.toNat ∧ b.toNat ≤ 0xBF) (hc : 0x80 ≤ c.toNat ∧ c.toNat ≤ 0xBF)
      (hd : 0x80 ≤ d.toNat ∧ d.toNat ≤ 0xBF)
      (hlow : a.toNat = 0xF0 → 0x90 ≤ b.toNat) (hhigh : a.toNat = 0xF4 → b.toNat ≤ 0x8F)
      (hn : n = (a.toNat - 0xF0) * 0x40000 + tailBits b * 0x1000 + tailBits c * 0x40
        + tailBits d) : Multibyte a [b, c, d] n

theorem Multibyte.lead {a : UInt8} {tail : Bytes} {n : Nat} (h : Multibyte a tail n) :
    0x80 ≤ a.toNat := by
  cases h <;> omega

theorem Multibyte.tail {a : UInt8} {tail : Bytes} {n : Nat} (h : Multibyte a tail n) :
    ∀ b ∈ tail, 0x80 ≤ b.toNat := by
  cases h <;> simp <;> omega

theorem Multibyte.codePoint {a : UInt8} {tail : Bytes} {n : Nat} (h : Multibyte a tail n) :
    0x80 ≤ n ∧ (n < 0xD800 ∨ 0xDFFF < n ∧ n < 0x110000) := by
  cases h with
  | two ha hb hn => unfold tailBits at hn; omega
  | three ha hb hc hlow hhigh hn => unfold tailBits at hn; omega
  | four ha hb hc hd hlow hhigh hn => unfold tailBits at hn; omega

theorem Multibyte.toNat_ofNat {a : UInt8} {tail : Bytes} {n : Nat} (h : Multibyte a tail n) :
    (Char.ofNat n).toNat = n :=
  toNat_ofNat_of_valid n h.codePoint.2

/-- A lead byte and its tail are read as one character, whatever follows. -/
theorem Multibyte.read {a : UInt8} {tail : Bytes} {n : Nat} (h : Multibyte a tail n)
    (rest : Bytes) : character? a (tail ++ rest) = some (Char.ofNat n, tail.length) := by
  have hlead : ¬a < 0x80 := by simpa [UInt8.lt_iff_toNat_lt] using h.lead
  cases h with
  | @two b _ ha hb hn =>
      have h2 : within 0xC2 0xDF a = true := within_iff.mpr ha
      have hb : within 0x80 0xBF b = true := within_iff.mpr hb
      simp [character?, hlead, h2, hb, ← hn]
  | @three b c _ ha hb hc hlow hhigh hn =>
      have h2 : ¬within 0xC2 0xDF a = true := by
        rw [within_iff]; simp; omega
      have h3 : within 0xE0 0xEF a = true := within_iff.mpr ha
      have hc : within 0x80 0xBF c = true := within_iff.mpr hc
      have hb : within (if a = 0xE0 then 0xA0 else 0x80) (if a = 0xED then 0x9F else 0xBF) b
          = true := (within_second_iff (by decide) (by decide)).mpr ⟨hb, hlow, hhigh⟩
      simp [character?, hlead, h2, h3, hb, hc, ← hn]
  | @four b c d _ ha hb hc hd hlow hhigh hn =>
      have h2 : ¬within 0xC2 0xDF a = true := by
        rw [within_iff]; simp; omega
      have h3 : ¬within 0xE0 0xEF a = true := by
        rw [within_iff]; simp; omega
      have h4 : within 0xF0 0xF4 a = true := within_iff.mpr ha
      have hc : within 0x80 0xBF c = true := within_iff.mpr hc
      have hd : within 0x80 0xBF d = true := within_iff.mpr hd
      have hb : within (if a = 0xF0 then 0x90 else 0x80) (if a = 0xF4 then 0x8F else 0xBF) b
          = true := (within_second_iff (by decide) (by decide)).mpr ⟨hb, hlow, hhigh⟩
      simp [character?, hlead, h2, h3, h4, hb, hc, hd, ← hn]

/-- Every character that is read is one byte below 0x80, or a lead byte with its tail. -/
theorem character?_cases {a : UInt8} {follow : Bytes} {c : Char} {size : Nat}
    (h : character? a follow = some (c, size)) :
    (a.toNat < 0x80 ∧ c = Char.ofNat a.toNat ∧ size = 0) ∨
    ∃ tail rest n, follow = tail ++ rest ∧ tail.length = size ∧ Multibyte a tail n ∧
      c = Char.ofNat n := by
  rw [character?.eq_def] at h
  by_cases hlead : a < 0x80
  · rw [if_pos hlead] at h
    simp only [Option.some.injEq, Prod.mk.injEq] at h
    exact Or.inl ⟨UInt8.lt_iff_toNat_lt.mp hlead, h.1.symm, h.2.symm⟩
  -- beyond ASCII the lead byte tells the length, and each length is a constructor
  rw [if_neg hlead] at h
  right
  by_cases h2 : within 0xC2 0xDF a = true
  · rw [if_pos h2] at h
    rcases follow with _ | ⟨b, rest⟩
    · cases h
    simp only [Option.ite_none_right_eq_some, Option.some.injEq, Prod.mk.injEq] at h
    obtain ⟨hb, rfl, rfl⟩ := h
    exact ⟨[b], rest, _, rfl, rfl, .two (within_iff.mp h2) (within_iff.mp hb) rfl, rfl⟩
  rw [if_neg h2] at h
  by_cases h3 : within 0xE0 0xEF a = true
  · rw [if_pos h3] at h
    rcases follow with _ | ⟨b, _ | ⟨d, rest⟩⟩
    · cases h
    · cases h
    simp only [Option.ite_none_right_eq_some, Bool.and_eq_true, Option.some.injEq,
      Prod.mk.injEq] at h
    obtain ⟨⟨hb, hd⟩, rfl, rfl⟩ := h
    obtain ⟨hb, hlow, hhigh⟩ := (within_second_iff (by decide) (by decide)).mp hb
    exact ⟨[b, d], rest, _, rfl, rfl,
      .three (within_iff.mp h3) hb (within_iff.mp hd) hlow hhigh rfl, rfl⟩
  rw [if_neg h3] at h
  by_cases h4 : within 0xF0 0xF4 a = true
  · rw [if_pos h4] at h
    rcases follow with _ | ⟨b, _ | ⟨d, _ | ⟨e, rest⟩⟩⟩
    · cases h
    · cases h
    · cases h
    simp only [Option.ite_none_right_eq_some, Bool.and_eq_true, Option.some.injEq,
      Prod.mk.injEq] at h
    obtain ⟨⟨⟨hb, hd⟩, he⟩, rfl, rfl⟩ := h
    obtain ⟨hb, hlow, hhigh⟩ := (within_second_iff (by decide) (by decide)).mp hb
    exact ⟨[b, d, e], rest, _, rfl, rfl,
      .four (within_iff.mp h4) hb (within_iff.mp hd) (within_iff.mp he) hlow hhigh rfl, rfl⟩
  · rw [if_neg h4] at h
    cases h

/-- A character is encoded as the byte of its code point or as a lead byte with its tail. -/
theorem utf8EncodeChar_cases (c : Char) :
    (∃ a : UInt8, String.utf8EncodeChar c = [a] ∧ a.toNat = c.toNat ∧ a.toNat < 0x80) ∨
    ∃ a tail, String.utf8EncodeChar c = a :: tail ∧ Multibyte a tail c.toNat := by
  have hvalid : c.toNat < 0xD800 ∨ 0xDFFF < c.toNat ∧ c.toNat < 0x110000 := c.valid
  have hval : c.val.toNat = c.toNat := rfl
  unfold String.utf8EncodeChar
  simp only [hval]
  generalize c.toNat = n at hvalid
  split
  · left
    refine ⟨_, rfl, ?_⟩
    simp only [UInt8.toNat_ofNat']
    omega
  · right
    split
    · refine ⟨_, _, rfl, .two ?_ ?_ (by unfold tailBits; simp only [UInt8.toNat_ofNat']; omega)⟩
      all_goals
        simp only [UInt8.toNat_ofNat']
        omega
    split
    · refine ⟨_, _, rfl, .three ?_ ?_ ?_ ?_ ?_
        (by unfold tailBits; simp only [UInt8.toNat_ofNat']; omega)⟩
      all_goals
        simp only [UInt8.toNat_ofNat']
        omega
    · refine ⟨_, _, rfl, .four ?_ ?_ ?_ ?_ ?_ ?_
        (by unfold tailBits; simp only [UInt8.toNat_ofNat']; omega)⟩
      all_goals
        simp only [UInt8.toNat_ofNat']
        omega

theorem symbolsFrom_eq_drop (skip : Nat) (bytes : Bytes) :
    symbolsFrom skip bytes = symbolsFrom 0 (bytes.drop skip) := by
  induction skip generalizing bytes with
  | zero => rfl
  | succ skip ih =>
      cases bytes with
      | nil => simp [symbolsFrom]
      | cons b rest => rw [symbolsFrom, ih, List.drop_succ_cons]

theorem symbolsFrom_utf8EncodeChar_append (c : Char) (rest : Bytes) :
    symbolsFrom 0 (String.utf8EncodeChar c ++ rest) = .char c :: symbolsFrom 0 rest := by
  rcases utf8EncodeChar_cases c with ⟨a, henc, hc, ha⟩ | ⟨a, tail, henc, hmulti⟩
  · have hread : character? a rest = some (Char.ofNat a.toNat, 0) := by
      have hlead : a < 0x80 := UInt8.lt_iff_toNat_lt.mpr ha
      simp [character?, hlead]
    rw [henc, List.cons_append, List.nil_append, symbolsFrom, hread, hc, Char.ofNat_toNat]
  · rw [henc, List.cons_append, symbolsFrom, hmulti.read, Char.ofNat_toNat]
    simp only
    rw [symbolsFrom_eq_drop, List.drop_left]

/-- An encoded text is read as itself, whatever follows. -/
theorem decode_encode_append (text : List Char) (bytes : Bytes) :
    decode (encode text ++ bytes) = text ++ decode bytes := by
  induction text with
  | nil => rfl
  | cons c text ih =>
      have hcons : encode (c :: text) ++ bytes =
          String.utf8EncodeChar c ++ (encode text ++ bytes) := by simp [encode]
      rw [decode, symbols, hcons, symbolsFrom_utf8EncodeChar_append, List.map_cons]
      exact congrArg (c :: ·) ih

@[simp] theorem decode_encode (text : List Char) : decode (encode text) = text := by
  have hread := decode_encode_append text []
  rwa [List.append_nil, show decode [] = [] from rfl, List.append_nil] at hread

/-- No character reaches across a byte below 0x80. -/
theorem character?_append {b : UInt8} (hb : b.toNat < 0x80) (a : UInt8) (follow rest : Bytes) :
    character? a (follow ++ b :: rest) = character? a follow := by
  have hascii : ∀ more, a.toNat < 0x80 → character? a more = some (Char.ofNat a.toNat, 0) := by
    intro more ha
    have hlead : a < 0x80 := UInt8.lt_iff_toNat_lt.mpr ha
    simp [character?, hlead]
  cases hread : character? a follow with
  | some read =>
      obtain ⟨c, size⟩ := read
      rcases character?_cases hread with ⟨ha, rfl, rfl⟩ | ⟨tail, more, n, rfl, rfl, hmulti, rfl⟩
      · exact hascii _ ha
      · rw [List.append_assoc, hmulti.read]
  | none =>
      -- what is read with `b` in sight has its tail before `b`, so it is read without it
      cases hother : character? a (follow ++ b :: rest) with
      | none => rfl
      | some read =>
          obtain ⟨c, size⟩ := read
          rcases character?_cases hother with ⟨ha, -, -⟩ | ⟨tail, more, n, hsplit, -, hmulti, -⟩
          · rw [hascii _ ha] at hread
            cases hread
          · rcases List.append_eq_append_iff.mp hsplit with ⟨as, rfl, hbs⟩ | ⟨bs, rfl, -⟩
            · cases as with
              | nil =>
                  have hself := hmulti.read []
                  rw [List.append_nil, List.append_nil] at hself
                  rw [hself] at hread
                  cases hread
              | cons d as =>
                  obtain ⟨rfl, -⟩ := List.cons.inj hbs
                  have := hmulti.tail b (by simp)
                  omega
            · rw [hmulti.read] at hread
              cases hread

theorem symbolsFrom_append {b : UInt8} (hb : b.toNat < 0x80) (skip : Nat) (front rest : Bytes)
    (hskip : skip ≤ front.length) :
    symbolsFrom skip (front ++ b :: rest) =
      symbolsFrom skip front ++ symbolsFrom 0 (b :: rest) := by
  fun_induction symbolsFrom skip front with
  | case1 skip =>
      obtain rfl : skip = 0 := Nat.le_zero.mp hskip
      rfl
  | case2 skip a front ih =>
      rw [List.cons_append, symbolsFrom, ih (Nat.le_of_succ_le_succ hskip)]
  | case3 a front c size hread ih =>
      have hsize : size ≤ front.length := by
        rcases character?_cases hread with ⟨-, -, rfl⟩ | ⟨tail, more, n, rfl, rfl, -⟩
        · exact Nat.zero_le _
        · simp
      rw [List.cons_append, symbolsFrom, character?_append hb, hread]
      exact congrArg (Symbol.char c :: ·) (ih hsize)
  | case4 a front hread ih =>
      rw [List.cons_append, symbolsFrom, character?_append hb, hread]
      exact congrArg (Symbol.stray a :: ·) (ih (Nat.zero_le _))

/-- Texts may be cut before any byte below 0x80, even if they are not well-formed. -/
theorem decode_append {b : UInt8} (hb : b.toNat < 0x80) (front rest : Bytes) :
    decode (front ++ b :: rest) = decode front ++ decode (b :: rest) := by
  simp only [decode, symbols, symbolsFrom_append hb 0 front rest (Nat.zero_le _), List.map_append]

/-- Later characters have greater bytes: the lead byte grows with the length of the encoding, and
encodings of one length are numerals. -/
theorem Multibyte.lt {a b : UInt8} {s t : Bytes} {m n : Nat} (hm : Multibyte a s m)
    (hn : Multibyte b t n) (h : m < n) (rest rest' : Bytes) :
    a :: (s ++ rest) < b :: (t ++ rest') := by
  cases hm <;> cases hn <;>
    simp only [List.cons_append, List.nil_append, List.cons_lt_cons_iff, UInt8.lt_iff_toNat_lt,
      ← UInt8.toNat_inj] <;>
    unfold tailBits at * <;> omega

theorem utf8EncodeChar_lt {c d : Char} (h : c < d) (rest rest' : Bytes) :
    String.utf8EncodeChar c ++ rest < String.utf8EncodeChar d ++ rest' := by
  have h : c.toNat < d.toNat := h
  rcases utf8EncodeChar_cases c with ⟨a, hc, ha, hascii⟩ | ⟨a, s, hc, hm⟩
  · -- the first byte of an ASCII character is less than that of any later character
    obtain ⟨b, t, hd, hb⟩ : ∃ b t, String.utf8EncodeChar d = b :: t ∧ a.toNat < b.toNat := by
      rcases utf8EncodeChar_cases d with ⟨b, hd, hb, -⟩ | ⟨b, t, hd, hn⟩
      · exact ⟨b, [], hd, by omega⟩
      · exact ⟨b, t, hd, hascii.trans_le hn.lead⟩
    rw [hc, hd, List.cons_append, List.cons_append, List.cons_lt_cons_iff]
    exact Or.inl (UInt8.lt_iff_toNat_lt.mpr hb)
  · rcases utf8EncodeChar_cases d with ⟨b, hd, hb, hascii⟩ | ⟨b, t, hd, hn⟩
    · have hcode := hm.codePoint.1
      omega
    · rw [hc, hd]
      exact hm.lt hn h rest rest'

/-- Texts in the order of their characters are in the order of their bytes. -/
theorem encode_lt {a b : List Char} (h : a < b) : encode a < encode b := by
  induction a generalizing b with
  | nil =>
    cases b with
    | nil => exact absurd h (List.not_lt_nil _)
    | cons d ds =>
      obtain ⟨byte, tail, hd⟩ := List.exists_cons_of_ne_nil (String.utf8EncodeChar_ne_nil (c := d))
      rw [encode, encode, List.flatMap_cons, hd]
      exact List.nil_lt_cons ..
  | cons c cs ih =>
    cases b with
    | nil => exact absurd h (List.not_lt_nil _)
    | cons d ds =>
      rw [encode, encode, List.flatMap_cons, List.flatMap_cons]
      rcases List.cons_lt_cons_iff.mp h with hlt | ⟨rfl, hlt⟩
      · exact utf8EncodeChar_lt hlt _ _
      · exact List.Lex.append_left _ (ih hlt) _

theorem encodeString_lt {a b : String} (h : a < b) : encodeString a < encodeString b :=
  encode_lt h

/-- Line feeds of the text are the line feeds among the bytes. -/
theorem count_lineFeed_symbolsFrom (skip : Nat) (bytes : Bytes) :
    ((symbolsFrom skip bytes).map Symbol.toChar).count '\n' = (bytes.drop skip).count 0x0A := by
  fun_induction symbolsFrom skip bytes with
  | case1 skip => simp
  | case2 skip b rest ih => simpa using ih
  | case3 a rest c size hread ih =>
      rw [List.map_cons, List.count_cons, ih, List.drop_zero, List.count_cons]
      rcases character?_cases hread with ⟨ha, hc, hsize⟩ | ⟨tail, rest, n, rfl, hsize, hmulti, hc⟩
      · have hcode : c.toNat = a.toNat := by
          rw [hc]
          exact toNat_ofNat_of_valid a.toNat (Or.inl (by omega))
        have hiff : c = '\n' ↔ a = 0x0A := by
          rw [← Char.toNat_inj, ← UInt8.toNat_inj, hcode]
          rfl
        simp [Symbol.toChar, hiff, hsize]
      · -- neither such a character nor a byte of it is a line feed
        have hc : c ≠ '\n' := by
          intro hlf
          have hcode := hmulti.toNat_ofNat
          rw [← hc, hlf] at hcode
          have := hmulti.codePoint.1
          simp at hcode
          omega
        have ha : a ≠ 0x0A := by
          rintro rfl
          exact absurd hmulti.lead (by decide)
        have htail : tail.count 0x0A = 0 := by
          rw [List.count_eq_zero]
          intro hmem
          exact absurd (hmulti.tail _ hmem) (by decide)
        simp [Symbol.toChar, hc, ha, ← hsize, htail]
  | case4 a rest hread ih =>
      have ha : a ≠ 0x0A := by
        rintro rfl
        simp [character?] at hread
      simp [Symbol.toChar, replacement, ha, ih]

theorem count_lineFeed_decode (content : Bytes) :
    (decode content).count '\n' = content.count 0x0A := by
  exact count_lineFeed_symbolsFrom 0 content

theorem lineFeed_not_mem_decode {line : Bytes} (h : 0x0A ∉ line) : '\n' ∉ decode line := by
  rwa [← List.count_eq_zero, count_lineFeed_decode, List.count_eq_zero]

end InlineAudit.Text
