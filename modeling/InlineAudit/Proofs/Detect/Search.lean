import InlineAudit.Detect.Search

/-!
Searching by offsets. A recogniser is asked at an offset with the character before it and the text
from it on; it is seen in a text if it answers at some offset. A search goes on behind each sight,
so it misses what is seen inside of one; where nothing is, it comes upon every sight there is.
-/

namespace InlineAudit.Detect

open Text

/-- The character right before an offset. -/
def charBefore (text : List Char) (offset : Nat) : Option Char :=
  if offset = 0 then none else text[offset - 1]?

@[simp] theorem charBefore_zero (text : List Char) : charBefore text 0 = none := rfl

@[simp] theorem charBefore_succ (text : List Char) (offset : Nat) :
    charBefore text (offset + 1) = text[offset]? := rfl

/-- What a recogniser sees at an offset of a text. -/
def seenAt {α : Type} (see : Recogniser α) (text : List Char) (offset : Nat) : Option (α × Nat) :=
  see (charBefore text offset) (text.drop offset)

theorem seenFrom_iff {α : Type} (see : Recogniser α) (before : Option Char) (text : List Char) :
    seenFrom see before text = true ↔
      ∃ offset < text.length,
        (see (if offset = 0 then before else text[offset - 1]?) (text.drop offset)).isSome := by
  induction text generalizing before with
  | nil => simp [seenFrom]
  | cons c rest ih =>
      rw [seenFrom, Bool.or_eq_true, ih]
      constructor
      · rintro (hhere | ⟨offset, hlt, hsee⟩)
        · exact ⟨0, by simp, by simpa using hhere⟩
        · refine ⟨offset + 1, by simpa using hlt, ?_⟩
          cases offset with
          | zero => simpa using hsee
          | succ offset => simpa using hsee
      · rintro ⟨offset, hlt, hsee⟩
        cases offset with
        | zero => exact Or.inl (by simpa using hsee)
        | succ offset =>
            refine Or.inr ⟨offset, by simpa using hlt, ?_⟩
            cases offset with
            | zero => simpa using hsee
            | succ offset => simpa using hsee

theorem seen_iff {α : Type} (see : Recogniser α) (text : List Char) :
    seen see text = true ↔ ∃ offset < text.length, (seenAt see text offset).isSome :=
  seenFrom_iff see none text

/-- A search comes up empty just if there is nothing to be seen. -/
theorem sights_eq_nil_iff {α : Type} {see : Recogniser α} {text : List Char} :
    sights see text = [] ↔ seen see text = false := by
  have hfrom : ∀ offset before, sightsFrom see 0 offset before text = [] ↔
      seenFrom see before text = false := by
    induction text with
    | nil => simp [sightsFrom, seenFrom]
    | cons c rest ih =>
        intro offset before
        rw [sightsFrom, seenFrom]
        cases see before (c :: rest) with
        | none => simpa using ih (offset + 1) (some c)
        | some sight => simp
  exact hfrom 0 none

/-- What is seen behind a character is seen in every text that goes on like this. -/
theorem seenFrom_append {α : Type} {see : Recogniser α} {c : Char} {text : List Char}
    (h : seenFrom see (some c) text = true) (before : Option Char) (front : List Char) :
    seenFrom see before (front ++ c :: text) = true := by
  induction front generalizing before with
  | nil => simp [seenFrom, h]
  | cons d front ih => simp [seenFrom, ih]

/-! ### Sights that do not overlap -/

/-- What a recogniser sees at each position of what follows the character `before`, inside of other
sights too, with offsets that are counted from `offset` on. -/
def everySight {α : Type} (see : Recogniser α) :
    (offset : Nat) → (before : Option Char) → List Char → List (Nat × α)
  | _, _, [] => []
  | offset, before, c :: rest =>
    ((see before (c :: rest)).map fun sight => (offset, sight.1)).toList ++
      everySight see (offset + 1) (some c) rest

/-- Nothing is seen inside of a sight. -/
def SightsApart {α : Type} (see : Recogniser α) : Prop :=
  ∀ before text value size, see before text = some (value, size) →
    ∀ i, i + 1 < size → see text[i]? (text.drop (i + 1)) = none

theorem sightsFrom_eq_everySight {α : Type} {see : Recogniser α} (hsee : SightsApart see)
    (skip offset : Nat) (before : Option Char) (text : List Char)
    (hskip : ∀ i < skip, see (if i = 0 then before else text[i - 1]?) (text.drop i) = none) :
    sightsFrom see skip offset before text = everySight see offset before text := by
  induction text generalizing skip offset before with
  | nil => cases skip <;> rfl
  | cons c rest ih =>
      -- what must not be seen in `rest`, in terms of the whole text
      have hrest : ∀ size, (∀ i < size, see (c :: rest)[i]? ((c :: rest).drop (i + 1)) = none) →
          ∀ i < size, see (if i = 0 then some c else rest[i - 1]?) (rest.drop i) = none := by
        intro size hnone i hi
        have hhere := hnone i hi
        cases i with
        | zero => simpa using hhere
        | succ i => simpa using hhere
      cases skip with
      | succ skip =>
          have hfirst : see before (c :: rest) = none := by
            simpa using hskip 0 (Nat.succ_pos skip)
          rw [sightsFrom, everySight, hfirst, Option.map_none, Option.toList_none, List.nil_append]
          refine ih skip _ _ (hrest skip ?_)
          intro i hi
          simpa using hskip (i + 1) (Nat.succ_lt_succ hi)
      | zero =>
          rw [sightsFrom, everySight]
          cases hhere : see before (c :: rest) with
          | none =>
              rw [Option.map_none, Option.toList_none, List.nil_append]
              exact ih 0 _ _ (by simp)
          | some sight =>
              obtain ⟨value, size⟩ := sight
              rw [Option.map_some, Option.toList_some, List.singleton_append]
              refine congrArg ((offset, value) :: ·) (ih (size - 1) _ _ (hrest (size - 1) ?_))
              intro i hi
              exact hsee before (c :: rest) value size hhere i (by omega)

/-- If sights do not overlap, a search comes upon all of them. -/
theorem sights_eq_everySight {α : Type} {see : Recogniser α} (hsee : SightsApart see)
    (text : List Char) : sights see text = everySight see 0 none text :=
  sightsFrom_eq_everySight hsee 0 0 none text (by simp)

theorem mem_everySight_from {α : Type} {see : Recogniser α} {offset : Nat} {before : Option Char}
    {text : List Char} {place : Nat} {value : α} :
    (place, value) ∈ everySight see offset before text ↔
      ∃ i < text.length, place = offset + i ∧ ∃ size,
        see (if i = 0 then before else text[i - 1]?) (text.drop i) = some (value, size) := by
  induction text generalizing offset before with
  | nil => simp [everySight]
  | cons c rest ih =>
      rw [everySight, List.mem_append, ih]
      constructor
      · rintro (hhere | ⟨i, hi, rfl, size, hsee⟩)
        · obtain ⟨⟨seen, size⟩, hsee, hpair⟩ :=
            Option.map_eq_some_iff.mp (Option.mem_toList.mp hhere)
          obtain ⟨rfl, rfl⟩ := Prod.mk.inj hpair
          exact ⟨0, by simp, rfl, size, by simpa using hsee⟩
        · refine ⟨i + 1, by simpa using hi, by omega, size, ?_⟩
          cases i with
          | zero => simpa using hsee
          | succ i => simpa using hsee
      · rintro ⟨i, hi, rfl, size, hsee⟩
        cases i with
        | zero =>
            left
            have hhere : see before (c :: rest) = some (value, size) := by simpa using hsee
            simp [hhere]
        | succ i =>
            right
            refine ⟨i, by simpa using hi, by omega, size, ?_⟩
            cases i with
            | zero => simpa using hsee
            | succ i => simpa using hsee

theorem mem_everySight {α : Type} {see : Recogniser α} {text : List Char} {offset : Nat}
    {value : α} :
    (offset, value) ∈ everySight see 0 none text ↔
      offset < text.length ∧ ∃ size, seenAt see text offset = some (value, size) := by
  rw [mem_everySight_from]
  constructor
  · rintro ⟨i, hi, rfl, hsee⟩
    rw [Nat.zero_add]
    exact ⟨hi, hsee⟩
  · rintro ⟨hi, hsee⟩
    exact ⟨offset, hi, (Nat.zero_add offset).symm, hsee⟩

theorem everySight_increasing {α : Type} (see : Recogniser α) (offset : Nat)
    (before : Option Char) (text : List Char) :
    (everySight see offset before text).Pairwise fun a b => a.1 < b.1 := by
  induction text generalizing offset before with
  | nil => exact .nil
  | cons c rest ih =>
      rw [everySight, List.pairwise_append]
      refine ⟨?_, ih (offset + 1) (some c), ?_⟩
      · cases see before (c :: rest) with
        | none => exact .nil
        | some sight => exact List.pairwise_singleton ..
      · intro a ha b hb
        obtain ⟨sight, -, rfl⟩ := Option.map_eq_some_iff.mp (Option.mem_toList.mp ha)
        obtain ⟨i, -, hi, -⟩ := mem_everySight_from.mp hb
        simp only
        omega

/-- What is seen at each position of what follows the character `before`, without the offsets. -/
def everyValue {α : Type} (see : Recogniser α) : (before : Option Char) → List Char → List α
  | _, [] => []
  | before, c :: rest =>
    ((see before (c :: rest)).map (·.1)).toList ++ everyValue see (some c) rest

theorem map_everySight {α : Type} (see : Recogniser α) (offset : Nat) (before : Option Char)
    (text : List Char) :
    (everySight see offset before text).map (·.2) = everyValue see before text := by
  induction text generalizing offset before with
  | nil => rfl
  | cons c rest ih =>
      rw [everySight, everyValue, List.map_append, ih]
      cases see before (c :: rest) <;> rfl

/-- If sights do not overlap, a search comes upon every value. -/
theorem SightsApart.map_sights {α : Type} {see : Recogniser α} (hsee : SightsApart see)
    (text : List Char) : (sights see text).map (·.2) = everyValue see none text := by
  rw [sights_eq_everySight hsee, map_everySight]

/-- Two ends of a text are as good as each other if nothing before them tells them apart. -/
theorem everyValue_append_congr {α : Type} {see : Recogniser α} {text text' : List Char}
    (hfront : ∀ before front,
      (see before (front ++ text)).map (·.1) = (see before (front ++ text')).map (·.1))
    (hend : ∀ before, everyValue see before text = everyValue see before text')
    (before : Option Char) (front : List Char) :
    everyValue see before (front ++ text) = everyValue see before (front ++ text') := by
  induction front generalizing before with
  | nil => exact hend before
  | cons c front ih =>
      have hhere := hfront before (c :: front)
      simp only [List.cons_append] at hhere ⊢
      rw [everyValue, everyValue, hhere, ih]

theorem everyValue_append_of_unseen {α : Type} {see : Recogniser α} {skipped : List Char}
    (hunseen : ∀ c ∈ skipped, ∀ before text, see before (c :: text) = none) (before : Option Char)
    (text : List Char) :
    everyValue see before (skipped ++ text) = everyValue see (skipped.getLast?.or before) text := by
  induction skipped generalizing before with
  | nil => rfl
  | cons c skipped ih =>
      obtain ⟨hhere, hrest⟩ := List.forall_mem_cons.mp hunseen
      rw [List.cons_append, everyValue, hhere, ih hrest, List.getLast?_cons]
      cases skipped.getLast? <;> rfl

/-- A text in which nothing is seen up to a position is as good as what follows. -/
theorem everyValue_skip {α : Type} {see : Recogniser α} {c : Char} {text : List Char} (n : Nat)
    (hunseen : ∀ i < n, see (c :: text)[i]? (text.drop i) = none) :
    everyValue see (some c) text = everyValue see (c :: text)[n]? (text.drop n) := by
  induction n with
  | zero => rfl
  | succ n ih =>
      rw [ih fun i hi => hunseen i (Nat.lt_succ_of_lt hi)]
      have hhere := hunseen n (Nat.lt_succ_self n)
      rw [List.getElem?_cons_succ]
      cases hrest : text.drop n with
      | nil => rw [← List.drop_drop, hrest, List.drop_nil]; rfl
      | cons d more =>
          have hd : text[n]? = some d := by rw [← List.head?_drop, hrest, List.head?_cons]
          have hmore : text.drop (n + 1) = more := by rw [← List.drop_drop, hrest]; rfl
          rw [hrest] at hhere
          rw [everyValue, hhere, hd, hmore]
          rfl

/-- If sights do not overlap, the search for values goes on behind each sight. -/
theorem SightsApart.everyValue_eq_cons {α : Type} {see : Recogniser α} (hsee : SightsApart see)
    {before : Option Char} {c : Char} {text : List Char} {value : α} {size : Nat}
    (h : see before (c :: text) = some (value, size + 1)) :
    everyValue see before (c :: text) =
      value :: everyValue see (c :: text)[size]? (text.drop size) := by
  have hskip := everyValue_skip size fun i hi => hsee _ _ _ _ h i (Nat.succ_lt_succ hi)
  rw [everyValue, h, ← hskip]
  rfl

/-- What is seen behind a text is seen at its end, whatever comes before it. -/
theorem everyValue_suffix {α : Type} (see : Recogniser α) (before : Option Char)
    (front : List Char) (c : Char) (text : List Char) :
    everyValue see (some c) text <:+ everyValue see before (front ++ c :: text) := by
  induction front generalizing before with
  | nil => exact List.suffix_append ..
  | cons d front ih => exact (ih (some d)).trans (List.suffix_append ..)

/-- What is seen in a text is seen first in every text that goes on from it, if sights do not
overlap, each is seen in the longer text too, and what is seen only there reaches into the rest:
behind the beginning of such a sight there is none in the text. -/
theorem SightsApart.everyValue_prefix {α : Type} {see : Recogniser α} (hsee : SightsApart see)
    {more : List Char}
    (hkeeps : ∀ before text sight, see before text = some sight →
      see before (text ++ more) = some sight)
    (hreach : ∀ before text value size, see before text = none →
      see before (text ++ more) = some (value, size) → text.length < size)
    (before : Option Char) (text : List Char) :
    everyValue see before text <+: everyValue see before (text ++ more) := by
  induction text generalizing before with
  | nil => exact List.nil_prefix
  | cons c text ih =>
      have hrest := ih (some c)
      rw [List.cons_append, everyValue, everyValue]
      cases hhere : see before (c :: text) with
      | some sight =>
          have hlonger := hkeeps _ _ _ hhere
          rw [List.cons_append] at hlonger
          rw [hlonger]
          exact (List.prefix_append_right_inj _).mpr hrest
      | none =>
          cases hlonger : see before (c :: (text ++ more)) with
          | none => exact hrest
          | some sight =>
              obtain ⟨value, size⟩ := sight
              have hsize := hreach _ _ _ _ hhere hlonger
              have hnone : ∀ i < text.length, see (c :: text)[i]? (text.drop i) = none := by
                intro i hi
                have hinside := hsee _ _ _ _ hlonger i (by rw [List.length_cons] at hsize; omega)
                rw [List.drop_succ_cons, List.drop_append_of_le_length (Nat.le_of_lt hi),
                  ← List.cons_append, List.getElem?_append_left (Nat.lt_succ_of_lt hi)] at hinside
                cases hshorter : see (c :: text)[i]? (text.drop i) with
                | none => rfl
                | some other =>
                    rw [hkeeps _ _ _ hshorter] at hinside
                    cases hinside
              rw [everyValue_skip text.length hnone, List.drop_length]
              exact List.nil_prefix

/-! ### Searching behind a text in which nothing is seen -/

/-- A recogniser that does not look back sees the same wherever the text stands. -/
theorem sightsFrom_shift {α : Type} {see : Recogniser α}
    (hsee : ∀ before before' text, see before text = see before' text) (distance skip offset : Nat)
    (before before' : Option Char) (text : List Char) :
    sightsFrom see skip (offset + distance) before text =
      (sightsFrom see skip offset before' text).map fun sight => (sight.1 + distance, sight.2) := by
  induction text generalizing skip offset before before' with
  | nil => cases skip <;> rfl
  | cons c rest ih =>
      have hnext := fun skip => ih skip (offset + 1) (some c) (some c)
      simp only [Nat.add_right_comm offset 1 distance] at hnext
      cases skip with
      | succ skip => rw [sightsFrom, sightsFrom, hnext]
      | zero =>
          rw [sightsFrom, sightsFrom, hsee before before']
          cases see before' (c :: rest) with
          | none => exact hnext 0
          | some sight => simp only [hnext, List.map_cons]

theorem sights_append_of_unseen {α : Type} {see : Recogniser α}
    (hsee : ∀ before before' text, see before text = see before' text) {skipped : List Char}
    (hunseen : ∀ c ∈ skipped, ∀ before text, see before (c :: text) = none) (text : List Char) :
    sights see (skipped ++ text) =
      (sights see text).map fun sight => (sight.1 + skipped.length, sight.2) := by
  have hfrom : ∀ offset before, sightsFrom see 0 offset before (skipped ++ text) =
      (sights see text).map fun sight => (sight.1 + (offset + skipped.length), sight.2) := by
    induction skipped with
    | nil =>
        intro offset before
        have hshift := sightsFrom_shift hsee offset 0 0 before none text
        rwa [Nat.zero_add] at hshift
    | cons c skipped ih =>
        obtain ⟨hhere, hrest⟩ := List.forall_mem_cons.mp hunseen
        intro offset before
        rw [List.cons_append, sightsFrom, hhere]
        simp only [ih hrest, List.length_cons, Nat.add_comm skipped.length 1, Nat.add_assoc]
  have hstart := hfrom 0 none
  simp only [Nat.zero_add] at hstart
  exact hstart

/-! ### Words -/

theorem afterAnyCase?_eq_some_iff {word text rest : List Char} :
    afterAnyCase? word text = some rest ↔
      (text.take word.length).map lower = word ∧ rest = text.drop word.length := by
  induction word generalizing text with
  | nil => simp [afterAnyCase?, eq_comm]
  | cons w word ih =>
      cases text with
      | nil => simp [afterAnyCase?]
      | cons c text => simp [afterAnyCase?, ih, and_assoc]

end InlineAudit.Detect
