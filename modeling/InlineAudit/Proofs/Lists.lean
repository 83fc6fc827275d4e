import Mathlib.Data.List.Nodup

/-!
Facts on lists. The first answer among alternatives, which is any answer where no two disagree; runs
read up to where they stop; lists without what comes again, from which erasing repetitions takes
nothing; and pairs by key.
-/

namespace InlineAudit

/-! ### First answers -/

theorem findSome?_congr {α β : Type} {l : List α} {f g : α → Option β} (h : ∀ a ∈ l, f a = g a) :
    l.findSome? f = l.findSome? g := by
  induction l with
  | nil => rfl
  | cons a l ih =>
      rw [List.findSome?_cons, List.findSome?_cons, h a (by simp),
        ih fun b hb => h b (by simp [hb])]

/-- An ordered choice between alternatives that never disagree is a choice by membership. -/
theorem findSome?_eq_some_iff_of_agree {α β : Type} {l : List α} {f : α → Option β}
    (hagree : ∀ a ∈ l, ∀ b ∈ l, ∀ x y, f a = some x → f b = some y → x = y) {x : β} :
    l.findSome? f = some x ↔ ∃ a ∈ l, f a = some x := by
  constructor
  · exact List.exists_of_findSome?_eq_some
  · rintro ⟨a, ha, hx⟩
    cases hfound : l.findSome? f with
    | none =>
        rw [List.findSome?_eq_none_iff.mp hfound a ha] at hx
        cases hx
    | some y =>
        obtain ⟨b, hb, hy⟩ := List.exists_of_findSome?_eq_some hfound
        rw [hagree b hb a ha y x hy hx]

/-! ### Runs -/

/-- A run is read up to the first that does not belong to it. -/
theorem span_append_of_stop {α : Type} {test : α → Bool} {taken rest : List α}
    (htaken : ∀ a ∈ taken, test a = true) (hrest : ∀ a, rest.head? = some a → test a = false) :
    (taken ++ rest).takeWhile test = taken ∧ (taken ++ rest).dropWhile test = rest := by
  rw [List.takeWhile_append_of_pos htaken, List.dropWhile_append_of_pos htaken]
  cases rest with
  | nil => simp
  | cons a rest => simp [hrest a rfl]

/-! ### Repetitions -/

section Repetitions

variable {α : Type} [BEq α]

theorem eraseDups_eq_nil_iff {l : List α} : l.eraseDups = [] ↔ l = [] := by
  cases l with
  | nil => simp
  | cons a l => simp [List.eraseDups_cons]

variable [LawfulBEq α]

theorem nodup_eraseDups (l : List α) : l.eraseDups.Nodup := by
  induction hn : l.length using Nat.strongRecOn generalizing l with
  | ind n ih =>
    cases l with
    | nil => simp
    | cons a rest =>
      rw [List.eraseDups_cons, List.nodup_cons]
      constructor
      · simp
      · have hlength := List.length_filter_le (fun b => !b == a) rest
        rw [List.length_cons] at hn
        exact ih _ (by omega) _ rfl

theorem eraseDups_of_nodup {l : List α} (h : l.Nodup) : l.eraseDups = l := by
  induction l with
  | nil => rfl
  | cons a rest ih =>
    obtain ⟨ha, hrest⟩ := List.nodup_cons.mp h
    have hkept : rest.filter (fun b => !b == a) = rest := by
      refine List.filter_eq_self.mpr fun b hb => ?_
      have hne : b ≠ a := fun heq => ha (heq ▸ hb)
      simp [hne]
    rw [List.eraseDups_cons, hkept, ih hrest]

theorem eraseDups_prefix {l l' : List α} (h : l <+: l') : l.eraseDups <+: l'.eraseDups := by
  obtain ⟨rest, rfl⟩ := h
  rw [List.eraseDups_append]
  exact List.prefix_append ..

/-- Places are kept by maps that keep everything apart. -/
theorem idxOf_map {β : Type} [BEq β] [LawfulBEq β] {f : α → β} (hf : Function.Injective f) (a : α)
    (l : List α) : (l.map f).idxOf (f a) = l.idxOf a := by
  induction l with
  | nil => rfl
  | cons b l ih =>
    have hsame : (f b == f a) = (b == a) := Bool.eq_iff_iff.mpr (by simp [hf.eq_iff])
    rw [List.map_cons, List.idxOf_cons, List.idxOf_cons, hsame, ih]

/-- Erasing repetitions does not depend on the order, up to order. -/
theorem eraseDups_perm {l l' : List α} (h : l.Perm l') : l.eraseDups.Perm l'.eraseDups := by
  refine (List.perm_ext_iff_of_nodup (nodup_eraseDups l) (nodup_eraseDups l')).mpr fun a => ?_
  rw [List.mem_eraseDups, List.mem_eraseDups, h.mem_iff]

end Repetitions

/-! ### Pairs by key -/

section Pairs

variable {α β : Type} [DecidableEq α]

theorem lookup_cons_eq (key other : α) (value : β) (pairs : List (α × β)) :
    ((key, value) :: pairs).lookup other =
      if other = key then some value else pairs.lookup other := by
  rw [List.lookup_cons]
  by_cases h : other = key
  · simp [h]
  · rw [if_neg h, beq_false_of_ne h]

theorem lookup_eq_some_iff_mem {pairs : List (α × β)} (h : (pairs.map (·.1)).Nodup)
    {key : α} {value : β} : pairs.lookup key = some value ↔ (key, value) ∈ pairs := by
  induction pairs with
  | nil => simp
  | cons pair pairs ih =>
    obtain ⟨key', value'⟩ := pair
    obtain ⟨hfresh, hpairs⟩ := List.nodup_cons.mp h
    rw [lookup_cons_eq, List.mem_cons]
    by_cases hkey : key = key'
    · subst hkey
      have hne : (key, value) ∉ pairs := fun hmem => hfresh (List.mem_map.mpr ⟨_, hmem, rfl⟩)
      simp [hne, eq_comm]
    · simp [hkey, ih hpairs]

/-- Where no key comes twice, the order of the pairs does not matter. -/
theorem lookup_perm {pairs pairs' : List (α × β)} (hperm : pairs.Perm pairs')
    (h : (pairs.map (·.1)).Nodup) (key : α) : pairs.lookup key = pairs'.lookup key := by
  have h' : (pairs'.map (·.1)).Nodup := (hperm.map (·.1)).nodup_iff.mp h
  ext value
  rw [lookup_eq_some_iff_mem h, lookup_eq_some_iff_mem h', hperm.mem_iff]

end Pairs

end InlineAudit
