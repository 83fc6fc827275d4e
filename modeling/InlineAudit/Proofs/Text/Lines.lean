import InlineAudit.Text.Lines

/-!
Cutting texts and counting lines. A list cut at a separator has one more piece than separators,
and none in a piece; the line of an offset grows with the offset, up to the number of lines.
-/

namespace InlineAudit.Text

theorem length_splitAt {α : Type} [DecidableEq α] (sep : α) (l : List α) :
    (splitAt sep l).length = 1 + l.count sep := by
  induction l with
  | nil => rfl
  | cons a rest ih =>
      rw [splitAt]
      by_cases ha : a = sep
      · rw [if_pos ha, List.length_cons, ih, ha, List.count_cons_self]
        omega
      · rw [if_neg ha, List.count_cons_of_ne ha, ← ih]
        cases hrest : splitAt sep rest with
        | nil =>
            rw [hrest, List.length_nil] at ih
            omega
        | cons piece more => rfl

theorem not_mem_of_mem_splitAt {α : Type} [DecidableEq α] {sep : α} {l piece : List α}
    (h : piece ∈ splitAt sep l) : sep ∉ piece := by
  induction l generalizing piece with
  | nil =>
      obtain rfl := List.mem_singleton.mp h
      exact List.not_mem_nil
  | cons a rest ih =>
      rw [splitAt] at h
      split at h
      · rcases List.mem_cons.mp h with rfl | h
        · exact List.not_mem_nil
        · exact ih h
      · rename_i ha
        split at h
        · rename_i first more hrest
          rw [hrest] at ih
          rcases List.mem_cons.mp h with rfl | h
          · exact List.not_mem_cons_of_ne_of_not_mem (Ne.symm ha) (ih List.mem_cons_self)
          · exact ih (List.mem_cons_of_mem _ h)
        · obtain rfl := List.mem_singleton.mp h
          exact List.not_mem_cons_of_ne_of_not_mem (Ne.symm ha) List.not_mem_nil

theorem splitAt_of_not_mem {α : Type} [DecidableEq α] {sep : α} {l : List α} (h : sep ∉ l) :
    splitAt sep l = [l] := by
  induction l with
  | nil => rfl
  | cons a rest ih =>
      rw [splitAt, if_neg (Ne.symm (List.ne_of_not_mem_cons h)),
        ih (List.not_mem_of_not_mem_cons h)]

theorem splitAt_ne_nil {α : Type} [DecidableEq α] (sep : α) (l : List α) : splitAt sep l ≠ [] := by
  intro h
  have hlength := length_splitAt sep l
  rw [h, List.length_nil] at hlength
  omega

/-- A separator ends a piece, whatever stands around it. -/
theorem splitAt_append {α : Type} [DecidableEq α] (sep : α) (left right : List α) :
    splitAt sep (left ++ sep :: right) = splitAt sep left ++ splitAt sep right := by
  induction left with
  | nil => simp [splitAt]
  | cons a rest ih =>
      rw [List.cons_append, splitAt, splitAt, ih]
      split
      · rfl
      · cases hrest : splitAt sep rest with
        | nil => exact absurd hrest (splitAt_ne_nil sep rest)
        | cons piece more => rfl

/-- Induction over the pieces of a list: the last one, and one that a separator ends. -/
theorem piece_induction {α : Type} [DecidableEq α] (sep : α) {motive : List α → Prop}
    (last : ∀ piece, sep ∉ piece → motive piece)
    (ended : ∀ piece rest, sep ∉ piece → motive rest → motive (piece ++ sep :: rest))
    (l : List α) : motive l := by
  induction hlength : l.length using Nat.strongRecOn generalizing l with
  | ind n ih =>
      by_cases hmem : sep ∈ l
      · obtain ⟨piece, rest, rfl, hpiece⟩ := List.eq_append_cons_of_mem hmem
        rw [List.length_append, List.length_cons] at hlength
        exact ended piece rest hpiece (ih rest.length (by omega) rest rfl)
      · exact last l hmem

/-- The pieces of a text are parts of it. -/
theorem infix_of_mem_splitAt {α : Type} [DecidableEq α] {sep : α} {l piece : List α}
    (h : piece ∈ splitAt sep l) : piece <:+: l := by
  induction l using piece_induction sep with
  | last first hfirst =>
    rw [splitAt_of_not_mem hfirst, List.mem_singleton] at h
    exact h ▸ List.infix_rfl
  | ended first rest hfirst ih =>
    rw [splitAt_append, splitAt_of_not_mem hfirst, List.singleton_append, List.mem_cons] at h
    obtain rfl | h := h
    · exact (List.prefix_append _ _).isInfix
    · exact (ih h).trans ((List.suffix_cons sep rest).trans (List.suffix_append first _)).isInfix

/-- The pieces with the separator between them are the list again. -/
theorem intercalate_splitAt {α : Type} [DecidableEq α] (sep : α) (l : List α) :
    [sep].intercalate (splitAt sep l) = l := by
  induction l with
  | nil => simp [splitAt]
  | cons a rest ih =>
      rw [splitAt]
      cases hrest : splitAt sep rest with
      | nil => exact absurd hrest (splitAt_ne_nil sep rest)
      | cons piece more =>
          rw [hrest] at ih
          split
          · rename_i ha
            rw [List.intercalate_cons_cons, ih, ha]
            rfl
          · cases more with
            | nil => simpa using ih
            | cons second more =>
                rw [List.intercalate_cons_cons] at ih ⊢
                rw [← ih]
                rfl

theorem after?_eq_some_iff {α : Type} [DecidableEq α] {start text rest : List α} :
    after? start text = some rest ↔ text = start ++ rest := by
  fun_induction after? start text with
  | case1 text => simp
  | case2 a start => simp
  | case3 start b text ih => simp [ih]
  | case4 a start b text hne => simp [Ne.symm hne]

/-- A cut is at the first separator. -/
theorem cutAt?_eq_some_iff {α : Type} [DecidableEq α] {sep : α} {l left right : List α} :
    cutAt? sep l = some (left, right) ↔ sep ∉ left ∧ l = left ++ sep :: right := by
  induction l generalizing left with
  | nil => simp [cutAt?]
  | cons a rest ih =>
      rw [cutAt?]
      by_cases ha : a = sep
      · subst ha
        cases left with
        | nil => simp [eq_comm]
        | cons b left => simp_all [eq_comm]
      · cases left with
        | nil => simp [ha]
        | cons b left =>
            rw [if_neg ha, Option.map_eq_some_iff]
            constructor
            · rintro ⟨⟨left', right'⟩, hcut, hpair⟩
              simp only [Prod.mk.injEq, List.cons.injEq] at hpair
              obtain ⟨⟨rfl, rfl⟩, rfl⟩ := hpair
              obtain ⟨hleft, rfl⟩ := ih.mp hcut
              exact ⟨List.not_mem_cons_of_ne_of_not_mem (Ne.symm ha) hleft, rfl⟩
            · rintro ⟨hleft, heq⟩
              obtain ⟨rfl, hrest⟩ := List.cons.inj heq
              have hcut := ih.mpr ⟨fun h => hleft (List.mem_cons_of_mem _ h), hrest⟩
              exact ⟨_, hcut, rfl⟩

/-- So two cuts of one text are the same cut. -/
theorem eq_of_cut_eq {α : Type} [DecidableEq α] {sep : α} {left right left' right' : List α}
    (hleft : sep ∉ left) (hleft' : sep ∉ left')
    (h : left ++ sep :: right = left' ++ sep :: right') : left = left' ∧ right = right' := by
  have hcut : cutAt? sep (left ++ sep :: right) = some (left, right) :=
    cutAt?_eq_some_iff.mpr ⟨hleft, rfl⟩
  have hcut' : cutAt? sep (left ++ sep :: right) = some (left', right') :=
    cutAt?_eq_some_iff.mpr ⟨hleft', h⟩
  rw [hcut] at hcut'
  exact Prod.mk.inj (Option.some.inj hcut')

theorem one_le_lineAt (text : List Char) (offset : Nat) : 1 ≤ lineAt text offset :=
  Nat.le_add_right ..

theorem lineAt_mono (text : List Char) {first second : Nat} (h : first ≤ second) :
    lineAt text first ≤ lineAt text second := by
  have hsub : (text.take first).Sublist (text.take second) := by
    rw [← Nat.min_eq_left h, ← List.take_take]
    exact List.take_sublist ..
  exact Nat.add_le_add_left (hsub.count_le '\n') 1

theorem lineAt_le (text : List Char) (offset : Nat) : lineAt text offset ≤ 1 + text.count '\n' :=
  Nat.add_le_add_left ((List.take_sublist offset text).count_le '\n') 1

/-- Lines go on counting in what follows a text. -/
theorem lineAt_append (front back : List Char) (offset : Nat) :
    lineAt (front ++ back) (front.length + offset) = lineAt back offset + front.count '\n' := by
  rw [lineAt, lineAt, List.take_length_add_append, List.count_append]
  omega

end InlineAudit.Text
