import InlineAudit.Proofs.Text.Utf8
import InlineAudit.Text.Blank
import InlineAudit.Text.Lower
import InlineAudit.Text.Word

/-!
What lower case does around ASCII. Of the characters beyond ASCII only U+0130 and the Kelvin sign
have a lower-case form in it, the letters i and k. So a plain sign is the lower-case form of itself
alone, and any other letter that of its two cases, which are word characters and not white space.
-/

namespace InlineAudit.Text

/-- Whether the lower-case forms of a run are characters beyond ASCII, or the letters i and k. -/
def CaseRun.staysOutside (run : CaseRun) : Bool :=
  let first := run.first + run.shift
  let last := run.last + run.shift
  run.last < 0x80
    || (0x80 ≤ first && (last < 0xD800 || 0xDFFF < first && last < 0x110000))
    || (run.first == run.last && (first == 0x69 || first == 0x6B))

theorem lowerRuns_staysOutside : lowerRuns.all CaseRun.staysOutside = true := by
  decide +kernel

theorem caseShift_cases (n : Nat) (runs : List CaseRun) :
    caseShift n runs = 0 ∨ ∃ run ∈ runs, run.has n = true ∧ caseShift n runs = run.shift := by
  induction runs with
  | nil => exact Or.inl rfl
  | cons run rest ih =>
      rw [caseShift]
      split
      · exact Or.inl rfl
      · split
        · rename_i hrun
          exact Or.inr ⟨run, by simp, hrun, rfl⟩
        · rcases ih with hzero | ⟨other, hmem, hhas, hshift⟩
          · exact Or.inl hzero
          · exact Or.inr ⟨other, by simp [hmem], hhas, hshift⟩

theorem lower_of_ascii {c : Char} (h : c.toNat < 0x80) : lower c = c.toLower := by
  simp [lower, h]

theorem lower_beyond_ascii {c : Char} (h : 0x80 ≤ c.toNat) :
    0x80 ≤ (lower c).toNat ∨ lower c = 'i' ∨ lower c = 'k' := by
  have hbeyond : ¬c.toNat < 0x80 := by omega
  simp only [lower, hbeyond, if_false]
  rcases caseShift_cases c.toNat lowerRuns with hshift | ⟨run, hmem, hhas, hshift⟩
  · rw [hshift]
    left
    simpa using h
  · have hrun := List.all_eq_true.mp lowerRuns_staysOutside run hmem
    rw [hshift]
    simp only [CaseRun.has, CaseRun.staysOutside, Bool.and_eq_true, Bool.or_eq_true,
      decide_eq_true_eq, beq_iff_eq] at hhas hrun
    obtain ⟨⟨hfirst, hlast⟩, -⟩ := hhas
    -- the run lies in ASCII, is shifted outside it, or is one of the two exceptions
    rcases hrun with (hrun | ⟨hlow, hvalid⟩) | ⟨hone, hi | hk⟩
    · omega
    · left
      rw [toNat_ofNat_of_valid]
      · omega
      · have : (c.toNat + run.shift).toNat < 0xD800 ∨ 0xDFFF < (c.toNat + run.shift).toNat ∧
            (c.toNat + run.shift).toNat < 0x110000 := by omega
        exact this
    · right
      left
      have : (c.toNat + run.shift).toNat = 0x69 := by omega
      rw [this]
    · right
      right
      have : (c.toNat + run.shift).toNat = 0x6B := by omega
      rw [this]

theorem ascii_of_lower_eq {c x : Char} (h : lower c = x) (hx : x.toNat < 0x80)
    (hi : x ≠ 'i') (hk : x ≠ 'k') : c.toNat < 0x80 := by
  rcases Nat.lt_or_ge c.toNat 0x80 with hc | hc
  · exact hc
  · rcases lower_beyond_ascii hc with hlow | hlow | hlow
    · rw [h] at hlow
      omega
    · exact absurd (h.symm.trans hlow) hi
    · exact absurd (h.symm.trans hlow) hk

/-- Checks a statement on ASCII characters one by one. -/
theorem forall_ascii {p : Char → Prop} (h : ∀ n : Fin 0x80, p (Char.ofNat n)) {c : Char}
    (hc : c.toNat < 0x80) : p c := by
  simpa using h ⟨c.toNat, hc⟩

/-- The same for the elements of a list. -/
theorem forall_mem_of_all {α : Type} {p : α → Prop} [DecidablePred p] {l : List α}
    (h : l.all (fun a => p a) = true) : ∀ a ∈ l, p a := by
  simpa using h

theorem toLower_ascii {c : Char} (hc : c.toNat < 0x80) :
    c.toLower = c ∨ c.toLower.isAlpha = true :=
  forall_ascii (p := fun c => c.toLower = c ∨ c.toLower.isAlpha = true) (by decide +kernel) hc

theorem ascii_letter_facts {c : Char} (hc : c.toNat < 0x80) :
    c.toLower.isAlpha = true → isWord c = true ∧ isBlank c = false :=
  forall_ascii (p := fun c => c.toLower.isAlpha = true → isWord c = true ∧ isBlank c = false)
    (by decide +kernel) hc

/-- A plain sign is the lower-case form of itself alone. -/
theorem lower_eq_sign_iff {c x : Char} (hx : x.toNat < 0x80) (hsign : x.toLower = x)
    (halpha : x.isAlpha = false) : lower c = x ↔ c = x := by
  constructor
  · intro h
    have hc : c.toNat < 0x80 := by
      apply ascii_of_lower_eq h hx
      · rintro rfl
        simp at halpha
      · rintro rfl
        simp at halpha
    rw [lower_of_ascii hc] at h
    rcases toLower_ascii hc with hself | hletter
    · rw [← h, hself]
    · rw [h, halpha] at hletter
      cases hletter
  · rintro rfl
    rw [lower_of_ascii hx, hsign]

/-- A letter other than i and k is the lower-case form of word characters only. -/
theorem isWord_of_lower_eq {c x : Char} (h : lower c = x) (hx : x.toNat < 0x80)
    (halpha : x.isAlpha = true) (hi : x ≠ 'i') (hk : x ≠ 'k') :
    isWord c = true ∧ isBlank c = false := by
  have hc := ascii_of_lower_eq h hx hi hk
  rw [lower_of_ascii hc] at h
  exact ascii_letter_facts hc (h ▸ halpha)

end InlineAudit.Text
