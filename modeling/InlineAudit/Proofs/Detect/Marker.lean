import InlineAudit.Detect.Marker
import InlineAudit.Proofs.Detect.Search
import InlineAudit.Proofs.Text.Lower

/-!
The marker as a pattern. Word boundaries on both sides of the marker mean that no word character
stands next to it, since its own letters are word characters in any case.
-/

namespace InlineAudit.Detect

open Text

/-- The letters of the marker stand at an offset, in any case. -/
def MarkerLetters (text : List Char) (offset : Nat) : Prop :=
  ((text.drop offset).take marker.toList.length).map lower = marker.toList.map lower

instance (text : List Char) (offset : Nat) : Decidable (MarkerLetters text offset) :=
  inferInstanceAs (Decidable (_ = _))

/-- The marker stands at an offset with no word character right before or after it. -/
structure MarkerAt (text : List Char) (offset : Nat) : Prop where
  letters : MarkerLetters text offset
  before : neighbourIsWord (charBefore text offset) = false
  after : neighbourIsWord text[offset + marker.toList.length]? = false

/-- A word boundary lies at an offset. -/
def IsBoundary (text : List Char) (offset : Nat) : Prop :=
  neighbourIsWord (charBefore text offset) ≠ neighbourIsWord text[offset]?

instance (text : List Char) (offset : Nat) : Decidable (IsBoundary text offset) :=
  inferInstanceAs (Decidable (_ ≠ _))

/-- Before a word character, a boundary is the absence of another. -/
theorem isBoundary_iff_before {text : List Char} {offset : Nat}
    (h : neighbourIsWord text[offset]? = true) :
    IsBoundary text offset ↔ neighbourIsWord (charBefore text offset) = false := by
  rw [IsBoundary, h, ne_eq, Bool.not_eq_true]

/-- And behind a word character likewise. -/
theorem isBoundary_iff_after {text : List Char} {offset : Nat}
    (h : neighbourIsWord (charBefore text offset) = true) :
    IsBoundary text offset ↔ neighbourIsWord text[offset]? = false := by
  rw [IsBoundary, h, ne_eq, eq_comm, Bool.not_eq_true]

/-- The marker's pattern matches somewhere in a text: the marker in any case between two word
boundaries. -/
def MarkerMatches (text : List Char) : Prop :=
  ∃ offset ∈ List.range (text.length + 1), IsBoundary text offset ∧ MarkerLetters text offset ∧
    IsBoundary text (offset + marker.toList.length)

instance (text : List Char) : Decidable (MarkerMatches text) :=
  inferInstanceAs (Decidable (∃ _ ∈ _, _))

theorem marker_length : marker.toList.length = 7 := by decide

theorem marker_lower : marker.toList.map lower = ['n', 'o', 's', 'o', 'n', 'a', 'r'] := by decide

/-- The letters of a marker, one by one. -/
theorem MarkerLetters.getElem? {text : List Char} {offset : Nat} (h : MarkerLetters text offset)
    {i : Nat} (hi : i < 7) :
    ∃ c, text[offset + i]? = some c ∧
      ['n', 'o', 's', 'o', 'n', 'a', 'r'][i]? = some (lower c) := by
  rw [MarkerLetters, marker_lower, marker_length] at h
  have hget := congrArg (·[i]?) h
  simp only [List.getElem?_map, List.getElem?_take, hi, if_true, List.getElem?_drop] at hget
  cases hc : text[offset + i]? with
  | none =>
      rw [hc] at hget
      simp only [Option.map_none] at hget
      have := List.getElem?_eq_none_iff.mp hget.symm
      simp at this
      omega
  | some c => exact ⟨c, rfl, by rw [← hget, hc]; rfl⟩

theorem MarkerLetters.isWord {text : List Char} {offset : Nat} (h : MarkerLetters text offset)
    {i : Nat} (hi : i < 7) : neighbourIsWord text[offset + i]? = true := by
  obtain ⟨c, hc, hletter⟩ := h.getElem? hi
  have hletters : ∀ x ∈ ['n', 'o', 's', 'o', 'n', 'a', 'r'],
      x.toNat < 0x80 ∧ x.isAlpha = true ∧ x ≠ 'i' ∧ x ≠ 'k' :=
    forall_mem_of_all (by decide)
  obtain ⟨hascii, halpha, hnoti, hnotk⟩ := hletters _ (List.mem_of_getElem? hletter)
  rw [hc]
  exact (isWord_of_lower_eq rfl hascii halpha hnoti hnotk).1

theorem MarkerLetters.fits {text : List Char} {offset : Nat} (h : MarkerLetters text offset) :
    offset + 7 ≤ text.length := by
  obtain ⟨c, hc, -⟩ := h.getElem? (i := 6) (by omega)
  exact (List.getElem?_eq_some_iff.mp hc).1

theorem MarkerLetters.lt_length {text : List Char} {offset : Nat}
    (h : MarkerLetters text offset) : offset < text.length := by
  have := h.fits
  omega

/-- Next to the letters of the marker, a boundary is the absence of a word character. -/
theorem MarkerLetters.boundaries {text : List Char} {offset : Nat}
    (h : MarkerLetters text offset) :
    (IsBoundary text offset ↔ neighbourIsWord (charBefore text offset) = false) ∧
      (IsBoundary text (offset + marker.toList.length) ↔
        neighbourIsWord text[offset + marker.toList.length]? = false) := by
  have hfirst : neighbourIsWord text[offset]? = true := h.isWord (i := 0) (by omega)
  have hlast : neighbourIsWord (charBefore text (offset + marker.toList.length)) = true :=
    h.isWord (i := 6) (by omega)
  exact ⟨isBoundary_iff_before hfirst, isBoundary_iff_after hlast⟩

theorem markerMatches_iff {text : List Char} :
    MarkerMatches text ↔ ∃ offset, MarkerAt text offset := by
  constructor
  · rintro ⟨offset, -, hbefore, hletters, hafter⟩
    exact ⟨offset, hletters, hletters.boundaries.1.mp hbefore, hletters.boundaries.2.mp hafter⟩
  · rintro ⟨offset, hletters, hbefore, hafter⟩
    refine ⟨offset, ?_, hletters.boundaries.1.mpr hbefore, hletters,
      hletters.boundaries.2.mpr hafter⟩
    have := hletters.lt_length
    rw [List.mem_range]
    omega

theorem seenAt_markerWord {text : List Char} {offset : Nat} :
    (seenAt markerWord text offset).isSome ↔ MarkerAt text offset := by
  have hletters : MarkerLetters text offset ↔
      ((text.drop offset).take 7).map lower = ['n', 'o', 's', 'o', 'n', 'a', 'r'] := by
    rw [MarkerLetters, marker_lower, marker_length]
  rw [seenAt, markerWord]
  constructor
  · intro hsee
    split at hsee
    · cases hsee
    rename_i hbefore
    split at hsee
    · rename_i rest hread
      obtain ⟨hword, rfl⟩ := afterAnyCase?_eq_some_iff.mp hread
      split at hsee
      · cases hsee
      rename_i hafter
      refine ⟨hletters.mpr hword, by simpa using hbefore, ?_⟩
      simpa [marker_length, List.head?_drop] using hafter
    · cases hsee
  · rintro ⟨hword, hbefore, hafter⟩
    have hread : afterAnyCase? ['n', 'o', 's', 'o', 'n', 'a', 'r'] (text.drop offset) =
        some ((text.drop offset).drop 7) :=
      afterAnyCase?_eq_some_iff.mpr ⟨hletters.mp hword, rfl⟩
    rw [marker_length] at hafter
    simp [hbefore, hread, List.head?_drop, hafter]

theorem seen_markerWord {text : List Char} :
    seen markerWord text = true ↔ ∃ offset, MarkerAt text offset := by
  rw [seen_iff]
  constructor
  · rintro ⟨offset, -, hsee⟩
    exact ⟨offset, seenAt_markerWord.mp hsee⟩
  · rintro ⟨offset, hat⟩
    exact ⟨offset, hat.letters.lt_length, seenAt_markerWord.mpr hat⟩

end InlineAudit.Detect
