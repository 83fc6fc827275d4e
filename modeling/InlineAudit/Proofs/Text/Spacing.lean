import InlineAudit.Proofs.Text.Fields
import InlineAudit.Proofs.Text.Utf8
import InlineAudit.Text.Raw
import Mathlib.Data.List.Chain
import Mathlib.Data.List.DropRight

/-!
Texts that are taken apart at white space and put together again, and the bytes of such texts. A
text comes back as it was just if its white space stands between other characters only, each time
as a single separator. The bytes tell as much as the text does: every part of a text that was read
from bytes is read again from its own bytes, and a space between two such parts keeps them apart.
-/

namespace InlineAudit.Text

/-! ### Bytes of a text -/

theorem unread_append (front rest : List Symbol) :
    unread (front ++ rest) = unread front ++ unread rest :=
  List.flatMap_append

theorem symbols_encode_append (text : List Char) (bytes : Bytes) :
    symbols (encode text ++ bytes) = text.map .char ++ symbols bytes := by
  induction text with
  | nil => rfl
  | cons c text ih =>
    have hcons : encode (c :: text) ++ bytes =
        String.utf8EncodeChar c ++ (encode text ++ bytes) := by simp [encode]
    rw [symbols, hcons, symbolsFrom_utf8EncodeChar_append]
    exact congrArg (Symbol.char c :: ·) ih

/-- A code point has one encoding. -/
theorem Multibyte.unique {a b : UInt8} {s t : Bytes} {n : Nat} (hm : Multibyte a s n)
    (hn : Multibyte b t n) : a :: s = b :: t := by
  cases hm <;> cases hn <;>
    simp only [List.cons.injEq, and_true, reduceCtorEq, and_false, ← UInt8.toNat_inj] <;>
    unfold tailBits at * <;> omega

theorem Multibyte.encode_eq {a : UInt8} {tail : Bytes} {n : Nat} (h : Multibyte a tail n) :
    String.utf8EncodeChar (Char.ofNat n) = a :: tail := by
  rcases utf8EncodeChar_cases (Char.ofNat n) with ⟨b, -, hb, hlow⟩ | ⟨b, more, henc, hother⟩
  · have hcode := h.codePoint.1
    rw [h.toNat_ofNat] at hb
    omega
  · rw [h.toNat_ofNat] at hother
    rw [henc]
    exact hother.unique h

theorem utf8EncodeChar_ascii {a : UInt8} (ha : a.toNat < 0x80) :
    String.utf8EncodeChar (Char.ofNat a.toNat) = [a] := by
  have hcode : (Char.ofNat a.toNat).toNat = a.toNat :=
    toNat_ofNat_of_valid a.toNat (Or.inl (by omega))
  rcases utf8EncodeChar_cases (Char.ofNat a.toNat) with ⟨b, henc, hb, -⟩ | ⟨b, tail, -, hmulti⟩
  · rw [henc, UInt8.toNat_inj.mp (hb.trans hcode)]
  · have hhigh := hmulti.codePoint.1
    omega

theorem unread_symbolsFrom (skip : Nat) (bytes : Bytes) :
    unread (symbolsFrom skip bytes) = bytes.drop skip := by
  fun_induction symbolsFrom skip bytes with
  | case1 skip => simp [unread]
  | case2 skip b rest ih => exact ih
  | case3 a rest c size hread ih =>
    show String.utf8EncodeChar c ++ unread (symbolsFrom size rest) = a :: rest
    rw [ih]
    rcases character?_cases hread with ⟨ha, rfl, rfl⟩ | ⟨tail, more, n, rfl, rfl, hmulti, rfl⟩
    · rw [utf8EncodeChar_ascii ha, List.drop_zero, List.singleton_append]
    · rw [hmulti.encode_eq, List.drop_left, List.cons_append]
  | case4 a rest hread ih =>
    show [a] ++ unread (symbolsFrom 0 rest) = a :: rest
    rw [ih]
    rfl

/-- Reading bytes loses nothing. -/
theorem unread_symbols (bytes : Bytes) : unread (symbols bytes) = bytes :=
  unread_symbolsFrom 0 bytes

/-- A text is what its bytes read as. -/
def Rereads (text : List Symbol) : Prop := symbols (unread text) = text

theorem rereads_symbols (bytes : Bytes) : Rereads (symbols bytes) :=
  congrArg symbols (unread_symbols bytes)

/-- Such a text is told by its bytes. -/
theorem Rereads.unread_eq_iff {text : List Symbol} (h : Rereads text) {bytes : Bytes} :
    unread text = bytes ↔ text = symbols bytes := by
  constructor
  · rintro rfl
    exact h.symm
  · rintro rfl
    exact unread_symbols bytes

theorem rereads_char_cons_iff {c : Char} {text : List Symbol} :
    Rereads (.char c :: text) ↔ Rereads text := by
  show symbols (String.utf8EncodeChar c ++ unread text) = _ ↔ _
  rw [symbols, symbolsFrom_utf8EncodeChar_append, List.cons.injEq]
  exact and_iff_right rfl

theorem rereads_stray_cons_iff {a : UInt8} {text : List Symbol} :
    Rereads (.stray a :: text) ↔ character? a (unread text) = none ∧ Rereads text := by
  show symbolsFrom 0 (a :: unread text) = _ ↔ _
  rw [symbolsFrom]
  cases character? a (unread text) with
  | some read => simp
  | none =>
    simp only [List.cons.injEq, true_and]
    rfl

/-- What is read goes on to be read when more follows. -/
theorem character?_extend {a : UInt8} {follow more : Bytes}
    (h : character? a (follow ++ more) = none) : character? a follow = none := by
  cases hread : character? a follow with
  | none => rfl
  | some read =>
    obtain ⟨c, size⟩ := read
    rcases character?_cases hread with ⟨ha, rfl, rfl⟩ | ⟨tail, rest, n, rfl, rfl, hmulti, rfl⟩
    · have hlead : a < 0x80 := UInt8.lt_iff_toNat_lt.mpr ha
      simp [character?, hlead] at h
    · rw [List.append_assoc, hmulti.read] at h
      cases h

theorem Rereads.of_append {front rest : List Symbol} (h : Rereads (front ++ rest)) :
    Rereads front ∧ Rereads rest := by
  induction front with
  | nil => exact ⟨rfl, h⟩
  | cons s front ih =>
    cases s with
    | char c => simpa only [rereads_char_cons_iff] using ih (rereads_char_cons_iff.mp h)
    | stray a =>
      rw [List.cons_append, rereads_stray_cons_iff, unread_append] at h
      obtain ⟨hread, hmore⟩ := h
      obtain ⟨hfront, hrest⟩ := ih hmore
      exact ⟨rereads_stray_cons_iff.mpr ⟨character?_extend hread, hfront⟩, hrest⟩

theorem Rereads.of_part {part text : List Symbol} (h : Rereads text) (hpart : part <:+: text) :
    Rereads part := by
  obtain ⟨front, back, rfl⟩ := hpart
  exact h.of_append.1.of_append.2

/-- No character reaches across a space. -/
theorem Rereads.append_space {front rest : List Symbol} (hfront : Rereads front)
    (hrest : Rereads rest) : Rereads (front ++ .char ' ' :: rest) := by
  induction front with
  | nil => exact rereads_char_cons_iff.mpr hrest
  | cons s front ih =>
    cases s with
    | char c => exact rereads_char_cons_iff.mpr (ih (rereads_char_cons_iff.mp hfront))
    | stray a =>
      obtain ⟨hread, hmore⟩ := rereads_stray_cons_iff.mp hfront
      refine rereads_stray_cons_iff.mpr ⟨?_, ih hmore⟩
      show character? a (unread (front ++ .char ' ' :: rest)) = none
      rw [unread_append, ← hread]
      exact character?_append (b := 0x20) (by decide) a (unread front) (unread rest)

theorem rereads_intercalate {parts : List (List Symbol)} (h : ∀ part ∈ parts, Rereads part) :
    Rereads ([.char ' '].intercalate parts) := by
  induction parts with
  | nil => rfl
  | cons part parts ih =>
    have hpart := h part List.mem_cons_self
    cases parts with
    | nil => simpa using hpart
    | cons next parts =>
      rw [List.intercalate_cons_cons, List.append_assoc]
      exact hpart.append_space (ih fun other hother => h other (List.mem_cons_of_mem _ hother))

theorem trimBy_part (p : Symbol → Bool) (text : List Symbol) : trimBy p text <:+: text := by
  exact (List.rdropWhile_prefix p (text.dropWhile p)).isInfix.trans
    (List.dropWhile_suffix p).isInfix

/-! ### Texts as keys -/

namespace Raw

@[simp] theorem shown_ofString (text : String) : (ofString text).shown = text := by
  simp [ofString, shown, Function.comp_def, Symbol.toChar]

theorem ofString_injective : Function.Injective ofString :=
  Function.LeftInverse.injective shown_ofString

theorem ofBytes_encodeString (text : String) : ofBytes (encodeString text) = ofString text := by
  have h := symbols_encode_append text.toList []
  rw [List.append_nil] at h
  rw [ofBytes, encodeString, h, ofString]
  exact congrArg Raw.mk (List.append_nil _)

end Raw

/-! ### Single separators -/

section

variable {α : Type} {p : α → Bool} {sep : α}

/-- White space stands between other characters only, and each time it is a single separator. -/
structure IsSpaced (p : α → Bool) (sep : α) (text : List α) : Prop where
  first : ∀ a ∈ text.head?, p a = false
  last : ∀ a ∈ text.getLast?, p a = false
  single : ∀ a ∈ text, p a = true → a = sep
  apart : text.IsChain fun a b => p a = false ∨ p b = false

theorem Fields.inside {text : List α} {fields : List (List α)} (h : Fields p text fields) :
    ∀ field ∈ fields, field <:+: text := by
  induction h with
  | blank => exact List.forall_mem_nil _
  | @field blanks field rest fields _ _ _ _ _ ih =>
    refine List.forall_mem_cons.mpr ⟨⟨blanks, rest, by simp⟩, fun other hother => ?_⟩
    exact (ih other hother).trans ⟨blanks ++ field, [], by simp⟩

theorem isSpaced_of_no_blank {field : List α} (h : ∀ a ∈ field, p a = false) :
    IsSpaced p sep field where
  first a ha := h a (List.mem_of_mem_head? ha)
  last a ha := h a (List.mem_of_mem_getLast? ha)
  single a ha hblank := by simp [h a ha] at hblank
  apart := by
    refine List.isChain_iff_forall_rel_of_append_cons_cons.mpr ?_
    rintro a b front back rfl
    exact Or.inl (h a (by simp))

theorem IsSpaced.append_field {field rest : List α} (hne : field ≠ [])
    (hfield : ∀ a ∈ field, p a = false) (hrest : IsSpaced p sep rest) (hsome : rest ≠ []) :
    IsSpaced p sep (field ++ sep :: rest) where
  first a ha := by
    rw [List.head?_append_of_ne_nil _ hne] at ha
    exact hfield a (List.mem_of_mem_head? ha)
  last a ha := by
    obtain ⟨b, more, rfl⟩ := List.exists_cons_of_ne_nil hsome
    rw [List.getLast?_append_cons, List.getLast?_cons_cons] at ha
    exact hrest.last a ha
  single a ha hblank := by
    rcases List.mem_append.mp ha with ha | ha
    · simp [hfield a ha] at hblank
    · rcases List.mem_cons.mp ha with rfl | ha
      · rfl
      · exact hrest.single a ha hblank
  apart := by
    have hbehind : (sep :: rest).IsChain fun a b => p a = false ∨ p b = false :=
      hrest.apart.cons fun a ha => Or.inr (hrest.first a ha)
    have hinside : IsSpaced p sep field := isSpaced_of_no_blank hfield
    refine hinside.apart.append hbehind fun a ha b _ => Or.inl ?_
    exact hfield a (List.mem_of_mem_getLast? ha)

theorem isSpaced_intercalate {fields : List (List α)}
    (h : ∀ field ∈ fields, field ≠ [] ∧ ∀ a ∈ field, p a = false) :
    IsSpaced p sep ([sep].intercalate fields) := by
  induction fields with
  | nil => exact isSpaced_of_no_blank (List.forall_mem_nil _)
  | cons field fields ih =>
    obtain ⟨hne, hfield⟩ := h field List.mem_cons_self
    cases fields with
    | nil => simpa using isSpaced_of_no_blank hfield
    | cons next fields =>
      have hrest := ih fun other hother => h other (List.mem_cons_of_mem _ hother)
      have hsome : [sep].intercalate (next :: fields) ≠ [] := by
        obtain ⟨a, more, rfl⟩ := List.exists_cons_of_ne_nil (h next (by simp)).1
        cases fields <;> simp [List.intercalate_cons_cons]
      rw [List.intercalate_cons_cons, List.append_assoc]
      exact hrest.append_field hne hfield hsome

/-- Behind a separator the text goes on, and it is spaced there too. -/
theorem IsSpaced.behind (hsep : p sep = true) {front rest : List α}
    (h : IsSpaced p sep (front ++ sep :: rest)) :
    front ≠ [] ∧ rest ≠ [] ∧ IsSpaced p sep rest := by
  have hapart := List.isChain_cons.mp h.apart.right_of_append
  have hfirst : ∀ a ∈ rest.head?, p a = false := by
    intro a ha
    simpa [hsep] using hapart.1 a ha
  have hsome : rest ≠ [] := by
    rintro rfl
    simpa [hsep] using h.last sep (by simp)
  refine ⟨?_, hsome, ⟨hfirst, ?_, ?_, hapart.2⟩⟩
  · rintro rfl
    simpa [hsep] using h.first sep rfl
  · intro a ha
    obtain ⟨b, more, rfl⟩ := List.exists_cons_of_ne_nil hsome
    exact h.last a (by rwa [List.getLast?_append_cons, List.getLast?_cons_cons])
  · exact fun a ha => h.single a (List.mem_append_right _ (List.mem_cons_of_mem _ ha))

/-- A spaced text is its fields with separators between them. -/
theorem IsSpaced.intercalate_fieldsBy [DecidableEq α] (hsep : p sep = true) {text : List α}
    (h : IsSpaced p sep text) : [sep].intercalate (fieldsBy p text) = text := by
  have hone : ∀ piece : List α, piece ≠ [] → sep ∉ piece →
      (∀ a ∈ piece, p a = true → a = sep) → fieldsBy p piece = [piece] := by
    intro piece hne hpiece hsingle
    refine fieldsBy_of_no_blank hne fun a ha => Bool.eq_false_iff.mpr fun hblank => ?_
    exact hpiece (hsingle a ha hblank ▸ ha)
  induction text using piece_induction sep with
  | last piece hpiece =>
    by_cases hne : piece = []
    · rw [hne]
      rfl
    · rw [hone piece hne hpiece h.single, List.intercalate_singleton]
  | ended piece rest hpiece ih =>
    obtain ⟨hne, hsome, hspaced⟩ := h.behind hsep
    have hrest := ih hspaced
    rw [fieldsBy_append_blank hsep,
      hone piece hne hpiece fun a ha => h.single a (List.mem_append_left _ ha)]
    cases hfields : fieldsBy p rest with
    | nil =>
      rw [hfields] at hrest
      exact absurd hrest.symm hsome
    | cons field fields =>
      rw [hfields] at hrest
      rw [List.singleton_append, List.intercalate_cons_cons, hrest, List.append_assoc,
        List.singleton_append]

theorem intercalate_fieldsBy_eq_iff [DecidableEq α] (hsep : p sep = true) {text : List α} :
    [sep].intercalate (fieldsBy p text) = text ↔ IsSpaced p sep text := by
  constructor
  · intro h
    rw [← h]
    exact isSpaced_intercalate (fieldsBy_eq_iff.mp rfl).of_mem
  · exact fun h => h.intercalate_fieldsBy hsep

end

end InlineAudit.Text
