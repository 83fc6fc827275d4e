import InlineAudit.Proofs.Text.Lines
import InlineAudit.Text.Blank
import Mathlib.Data.List.Induction
import Mathlib.Data.List.Infix

/-!
Fields between white space. A text is its fields in order with white space around them, and in one
way only, so the reader of fields is described by that alone. Everything else follows from one
equation: white space ends a field, whatever stands around it. White space at the ends of a text
plays no part, and fields put together with single spaces are read again as they were.
-/

namespace InlineAudit.Text

section

variable {α : Type} {p : α → Bool}

/-- A text consists of fields: there is white space around and between them, and none in them. -/
inductive Fields (p : α → Bool) : List α → List (List α) → Prop
  | blank {blanks : List α} (h : ∀ a ∈ blanks, p a = true) : Fields p blanks []
  | field {blanks field rest : List α} {fields : List (List α)} (h : ∀ a ∈ blanks, p a = true)
      (hne : field ≠ []) (hfield : ∀ a ∈ field, p a = false)
      (hend : ∀ a, rest.head? = some a → p a = true) (hrest : Fields p rest fields) :
      Fields p (blanks ++ (field ++ rest)) (field :: fields)

/-- A text that begins inside a field ends it at the first white space. -/
theorem fieldsFrom_append_blank {a : α} (ha : p a = true) (run left right : List α) :
    fieldsFrom p run (left ++ a :: right) = fieldsFrom p run left ++ fieldsBy p right := by
  induction left generalizing run with
  | nil =>
    simp only [List.nil_append, fieldsFrom, ha, if_true, fieldsBy]
    split <;> rfl
  | cons b left ih =>
    rw [List.cons_append, fieldsFrom, fieldsFrom]
    split
    · split
      · exact ih []
      · rw [ih [], List.cons_append]
    · exact ih (b :: run)

/-- White space ends a field, whatever stands around it. -/
theorem fieldsBy_append_blank {a : α} (ha : p a = true) (left right : List α) :
    fieldsBy p (left ++ a :: right) = fieldsBy p left ++ fieldsBy p right :=
  fieldsFrom_append_blank ha [] left right

@[simp] theorem fieldsBy_nil : fieldsBy p [] = [] := rfl

theorem fieldsBy_cons_blank {a : α} (ha : p a = true) (text : List α) :
    fieldsBy p (a :: text) = fieldsBy p text :=
  fieldsBy_append_blank ha [] text

theorem fieldsBy_concat_blank {a : α} (ha : p a = true) (text : List α) :
    fieldsBy p (text ++ [a]) = fieldsBy p text := by
  rw [fieldsBy_append_blank ha, fieldsBy_nil, List.append_nil]

theorem fieldsBy_blanks_append {blanks : List α} (h : ∀ a ∈ blanks, p a = true) (text : List α) :
    fieldsBy p (blanks ++ text) = fieldsBy p text := by
  induction blanks with
  | nil => rfl
  | cons a blanks ih =>
    rw [List.cons_append, fieldsBy_cons_blank (h a List.mem_cons_self)]
    exact ih fun b hb => h b (List.mem_cons_of_mem _ hb)

theorem fieldsFrom_of_no_blank {field : List α} (h : ∀ a ∈ field, p a = false) (run : List α)
    (hne : run ≠ [] ∨ field ≠ []) : fieldsFrom p run field = [run.reverse ++ field] := by
  induction field generalizing run with
  | nil => simp [fieldsFrom, hne.resolve_right (by simp)]
  | cons a field ih =>
    rw [fieldsFrom, h a List.mem_cons_self, if_neg (by simp),
      ih (fun b hb => h b (List.mem_cons_of_mem _ hb)) (a :: run) (Or.inl (by simp))]
    simp

/-- A text without white space is one field. -/
theorem fieldsBy_of_no_blank {field : List α} (hne : field ≠ []) (h : ∀ a ∈ field, p a = false) :
    fieldsBy p field = [field] :=
  fieldsFrom_of_no_blank h [] (Or.inr hne)

/-- The reader finds the fields that a text consists of. -/
theorem Fields.fieldsBy_eq {text : List α} {fields : List (List α)} (h : Fields p text fields) :
    fieldsBy p text = fields := by
  induction h with
  | @blank blanks h => simpa using fieldsBy_blanks_append h []
  | @field blanks field rest fields h hne hfield hend hrest ih =>
    rw [fieldsBy_blanks_append h]
    cases rest with
    | nil =>
      rw [fieldsBy_nil] at ih
      rw [List.append_nil, fieldsBy_of_no_blank hne hfield, ← ih]
    | cons a rest =>
      have ha : p a = true := hend a rfl
      rw [fieldsBy_cons_blank ha] at ih
      rw [fieldsBy_append_blank ha, fieldsBy_of_no_blank hne hfield, ih]
      rfl

/-- White space before a text with fields is white space around its first one. -/
theorem Fields.cons_blank {a : α} (ha : p a = true) {text : List α} {fields : List (List α)}
    (h : Fields p text fields) : Fields p (a :: text) fields := by
  cases h with
  | blank h => exact .blank (List.forall_mem_cons.mpr ⟨ha, h⟩)
  | field h hne hfield hend hrest =>
    exact .field (List.forall_mem_cons.mpr ⟨ha, h⟩) hne hfield hend hrest

/-- Every text consists of fields: take one character more, which is white space, goes before the
first field or is a field of its own. -/
theorem exists_fields (p : α → Bool) (text : List α) : ∃ fields, Fields p text fields := by
  induction text with
  | nil => exact ⟨[], .blank (List.forall_mem_nil _)⟩
  | cons a text ih =>
    obtain ⟨fields, hfields⟩ := ih
    cases ha : p a with
    | true => exact ⟨fields, hfields.cons_blank ha⟩
    | false =>
      have hone : ∀ b ∈ [a], p b = false := by simpa using ha
      cases hfields with
      | blank h =>
        have hend : ∀ b, text.head? = some b → p b = true :=
          fun b hb => h b (List.mem_of_head? hb)
        exact ⟨[[a]], .field (List.forall_mem_nil _) (by simp) hone hend (.blank h)⟩
      | @field blanks field rest fields h hne hfield hend hrest =>
        cases blanks with
        | nil =>
          refine ⟨(a :: field) :: fields, ?_⟩
          exact .field (List.forall_mem_nil _) (by simp) (List.forall_mem_cons.mpr ⟨ha, hfield⟩)
            hend hrest
        | cons b blanks =>
          have hblank : ∀ c, (b :: blanks ++ (field ++ rest)).head? = some c → p c = true := by
            intro c hc
            obtain rfl : b = c := by simpa using hc
            exact h b List.mem_cons_self
          exact ⟨[a] :: field :: fields, .field (List.forall_mem_nil _) (by simp) hone hblank
            (.field h hne hfield hend hrest)⟩

theorem fieldsBy_eq_iff {text : List α} {fields : List (List α)} :
    fieldsBy p text = fields ↔ Fields p text fields := by
  constructor
  · rintro rfl
    obtain ⟨fields, hfields⟩ := exists_fields p text
    rwa [hfields.fieldsBy_eq]
  · exact Fields.fieldsBy_eq

/-- A field is not empty, and there is no white space in it. -/
theorem Fields.of_mem {text : List α} {fields : List (List α)} (h : Fields p text fields) :
    ∀ field ∈ fields, field ≠ [] ∧ ∀ a ∈ field, p a = false := by
  induction h with
  | blank => exact List.forall_mem_nil _
  | field _ hne hfield _ _ ih => exact List.forall_mem_cons.mpr ⟨⟨hne, hfield⟩, ih⟩

theorem fieldsBy_eq_nil_iff {text : List α} :
    fieldsBy p text = [] ↔ ∀ a ∈ text, p a = true := by
  rw [fieldsBy_eq_iff]
  constructor
  · rintro ⟨h⟩
    exact h
  · exact .blank

/-- Fields put together with one white space between neighbours are read again. -/
theorem fieldsBy_intercalate {sep : α} (hsep : p sep = true) {fields : List (List α)}
    (h : ∀ field ∈ fields, field ≠ [] ∧ ∀ a ∈ field, p a = false) :
    fieldsBy p ([sep].intercalate fields) = fields := by
  induction fields with
  | nil => rfl
  | cons field rest ih =>
    obtain ⟨hne, hfield⟩ := h field List.mem_cons_self
    cases rest with
    | nil => simpa using fieldsBy_of_no_blank hne hfield
    | cons next rest =>
      have hrest := ih fun f hf => h f (List.mem_cons_of_mem _ hf)
      rw [List.intercalate_cons_cons, List.append_assoc, List.singleton_append,
        fieldsBy_append_blank hsep, fieldsBy_of_no_blank hne hfield, hrest]
      rfl

/-- Reading fields goes along with a change of the characters that keeps white space. -/
theorem fieldsFrom_map {β : Type} (f : α → β) (q : β → Bool) (run text : List α) :
    fieldsFrom q (run.map f) (text.map f) = (fieldsFrom (q ∘ f) run text).map (List.map f) := by
  induction text generalizing run with
  | nil => cases run <;> simp [fieldsFrom]
  | cons a text ih =>
    have hnil := ih []
    have hrun := ih (a :: run)
    rw [List.map_nil] at hnil
    rw [List.map_cons] at hrun
    rw [List.map_cons, fieldsFrom, fieldsFrom, Function.comp_apply, hnil, hrun, List.isEmpty_map]
    split
    · split <;> simp
    · rfl

theorem fieldsBy_map {β : Type} (f : α → β) (q : β → Bool) (text : List α) :
    fieldsBy q (text.map f) = (fieldsBy (q ∘ f) text).map (List.map f) :=
  fieldsFrom_map f q [] text

/-! ### White space at the ends -/

/-- A property of texts that white space at either end does not touch holds of the trimmed text
just if it holds of the text. -/
theorem trimBy_invariant {β : Type} {f : List α → β}
    (hfirst : ∀ a text, p a = true → f (a :: text) = f text)
    (hlast : ∀ text a, p a = true → f (text ++ [a]) = f text) (text : List α) :
    f (trimBy p text) = f text := by
  have hfront : ∀ l : List α, f (l.dropWhile p) = f l := by
    intro l
    induction l with
    | nil => rfl
    | cons a l ih =>
      rw [List.dropWhile_cons]
      split
      · rename_i ha
        rw [ih, hfirst a l ha]
      · rfl
  have hback : ∀ l : List α, f (l.reverse.dropWhile p).reverse = f l := by
    intro l
    induction l using List.reverseRecOn with
    | nil => rfl
    | append_singleton l a ih =>
      rw [List.reverse_concat, List.dropWhile_cons]
      split
      · rename_i ha
        rw [ih, hlast l a ha]
      · rw [List.reverse_cons, List.reverse_reverse]
  rw [trimBy, hback, hfront]

/-- White space at the ends of a text does not change what its lines give, if a line gives what its
fields give and nothing without any. -/
theorem filterMap_splitAt_trimBy [DecidableEq α] {sep : α} {β : Type}
    {f : List (List α) → Option β} (hf : f [] = none) (text : List α) :
    (splitAt sep (trimBy p text)).filterMap (fun line => f (fieldsBy p line)) =
      (splitAt sep text).filterMap fun line => f (fieldsBy p line) := by
  refine trimBy_invariant (f := fun text => (splitAt sep text).filterMap _) ?_ ?_ text
  · intro a text ha
    by_cases hsep : a = sep
    · rw [splitAt, if_pos hsep]
      exact List.filterMap_cons_none hf
    · rw [splitAt, if_neg hsep]
      cases hsplit : splitAt sep text with
      | nil => exact absurd hsplit (splitAt_ne_nil sep text)
      | cons piece more =>
        simp only [List.filterMap_cons, fieldsBy_cons_blank ha]
  · intro text a ha
    induction text using piece_induction sep with
    | last piece hpiece =>
      by_cases hsep : a = sep
      · rw [hsep, splitAt_append, List.filterMap_append]
        simp [splitAt, hf]
      · have hconcat : sep ∉ piece ++ [a] := by
          simpa [hpiece] using Ne.symm hsep
        simp only [splitAt_of_not_mem hpiece, splitAt_of_not_mem hconcat, List.filterMap_cons,
          fieldsBy_concat_blank ha]
    | ended piece rest hpiece ih =>
      rw [List.append_assoc, List.cons_append, splitAt_append, splitAt_append,
        List.filterMap_append, List.filterMap_append, ih]

end

/-- Cutting goes along with a change of the elements that tells the separator from all others. -/
theorem splitAt_map {α β : Type} [DecidableEq α] [DecidableEq β] {f : α → β} {sep : α}
    (hf : ∀ a, f a = f sep ↔ a = sep) (l : List α) :
    splitAt (f sep) (l.map f) = (splitAt sep l).map (List.map f) := by
  induction l with
  | nil => rfl
  | cons a l ih =>
    rw [List.map_cons, splitAt, splitAt, ih]
    by_cases ha : a = sep
    · rw [if_pos ha, if_pos ((hf a).mpr ha)]
      rfl
    · rw [if_neg ha, if_neg (mt (hf a).mp ha)]
      cases hsplit : splitAt sep l with
      | nil => exact absurd hsplit (splitAt_ne_nil sep l)
      | cons piece more => rfl

theorem map_intercalate {α β : Type} (f : α → β) (sep : List α) (parts : List (List α)) :
    (sep.intercalate parts).map f = (sep.map f).intercalate (parts.map (List.map f)) := by
  induction parts with
  | nil => rfl
  | cons part parts ih =>
    cases parts with
    | nil => simp
    | cons next parts =>
      rw [List.map_cons, List.map_cons, List.intercalate_cons_cons, List.intercalate_cons_cons,
        List.map_append, List.map_append, ih, List.map_cons]

/-! ### Single spaces -/

/-- The fields of a text with single spaces between them. -/
def squeeze (text : List Char) : List Char := [' '].intercalate (fieldsBy isBlank text)

/-- No space stands at either end of a text, and no two stand next to each other. -/
structure IsTight (text : List Char) : Prop where
  first : ¬[' '] <+: text
  last : ¬[' '] <:+ text
  between : ¬[' ', ' '] <:+: text

instance (text : List Char) : Decidable (IsTight text) :=
  decidable_of_iff (¬[' '] <+: text ∧ ¬[' '] <:+ text ∧ ¬[' ', ' '] <:+: text)
    ⟨fun h => ⟨h.1, h.2.1, h.2.2⟩, fun h => ⟨h.first, h.last, h.between⟩⟩

theorem squeeze_squeeze (text : List Char) : squeeze (squeeze text) = squeeze text := by
  have hfields := (fieldsBy_eq_iff.mp (rfl : fieldsBy isBlank text = _)).of_mem
  rw [squeeze, squeeze, fieldsBy_intercalate rfl hfields]

/-- Squeezing makes no text longer, and one that begins with white space shorter. -/
theorem Fields.length_intercalate_le {text : List Char} {fields : List (List Char)}
    (h : Fields isBlank text fields) :
    ([' '].intercalate fields).length ≤ text.length ∧
      ∀ c, text.head? = some c → isBlank c = true →
        ([' '].intercalate fields).length < text.length := by
  induction h with
  | @blank blanks h =>
    refine ⟨Nat.zero_le _, fun c hc _ => ?_⟩
    exact List.length_pos_of_mem (List.mem_of_head? hc)
  | @field blanks field rest fields h hne hfield hend hrest ih =>
    have hlength : ([' '].intercalate (field :: fields)).length ≤ field.length + rest.length := by
      cases fields with
      | nil => simp
      | cons next fields =>
        cases rest with
        | nil => simpa using hrest.fieldsBy_eq
        | cons a rest =>
          have hlt := ih.2 a rfl (hend a rfl)
          simp only [List.intercalate_cons_cons, List.length_append, List.length_singleton]
          omega
    simp only [List.length_append]
    refine ⟨by omega, fun c hc hblank => ?_⟩
    cases blanks with
    | nil =>
      obtain ⟨a, field, rfl⟩ := List.exists_cons_of_ne_nil hne
      obtain rfl : a = c := by simpa using hc
      simp [hfield a List.mem_cons_self] at hblank
    | cons b blanks =>
      rw [List.length_cons]
      omega

theorem length_squeeze_le (text : List Char) : (squeeze text).length ≤ text.length :=
  (fieldsBy_eq_iff.mp rfl).length_intercalate_le.1

theorem squeeze_append_space (left right : List Char) :
    squeeze (left ++ ' ' :: right) =
      [' '].intercalate (fieldsBy isBlank left ++ fieldsBy isBlank right) := by
  rw [squeeze, fieldsBy_append_blank rfl]

/-- A text with a space to spare is not left as it is. -/
theorem isTight_of_squeeze_eq {text : List Char} (h : squeeze text = text) : IsTight text := by
  refine ⟨?_, ?_, ?_⟩
  · rintro ⟨rest, rfl⟩
    have hlength := length_squeeze_le rest
    rw [squeeze, List.singleton_append, fieldsBy_cons_blank rfl, ← squeeze] at h
    rw [h, List.length_cons] at hlength
    omega
  · rintro ⟨front, rfl⟩
    have hlength := length_squeeze_le front
    rw [squeeze, fieldsBy_concat_blank rfl, ← squeeze] at h
    rw [h, List.length_append, List.length_singleton] at hlength
    omega
  · rintro ⟨front, back, rfl⟩
    have hlength := length_squeeze_le (front ++ ' ' :: back)
    rw [List.append_assoc, List.cons_append, List.singleton_append, squeeze_append_space,
      fieldsBy_cons_blank rfl, ← squeeze_append_space] at h
    simp only [h, List.length_append, List.length_cons] at hlength
    omega

/-- Where all white space is spaces, a text with none to spare is left as it is. -/
theorem IsTight.squeeze_eq {text : List Char} (h : IsTight text)
    (hspaces : ∀ c ∈ text, isBlank c = true → c = ' ') : squeeze text = text := by
  have hone : ∀ piece : List Char, piece ≠ [] → ' ' ∉ piece →
      (∀ c ∈ piece, isBlank c = true → c = ' ') → fieldsBy isBlank piece = [piece] := by
    intro piece hne hpiece hspaces
    refine fieldsBy_of_no_blank hne fun c hc => Bool.eq_false_iff.mpr fun hblank => ?_
    exact hpiece (hspaces c hc hblank ▸ hc)
  induction text using piece_induction ' ' with
  | last piece hpiece =>
    cases piece with
    | nil => rfl
    | cons c piece => simp [squeeze, hone _ (by simp) hpiece hspaces]
  | ended piece rest hpiece ih =>
    have hne : piece ≠ [] := by
      rintro rfl
      exact h.first ⟨rest, rfl⟩
    have htight : IsTight rest := by
      refine ⟨?_, fun hlast => h.last (hlast.trans ?_),
        fun hbetween => h.between (hbetween.trans ?_)⟩
      · rintro ⟨more, rfl⟩
        exact h.between ⟨piece, more, by simp⟩
      · exact ⟨piece ++ [' '], by simp⟩
      · exact ⟨piece ++ [' '], [], by simp⟩
    have hrest : squeeze rest = rest :=
      ih htight fun c hc => hspaces c (List.mem_append_right _ (List.mem_cons_of_mem _ hc))
    rw [squeeze_append_space,
      hone piece hne hpiece fun c hc => hspaces c (List.mem_append_left _ hc)]
    cases hfields : fieldsBy isBlank rest with
    | nil =>
      rw [squeeze, hfields] at hrest
      obtain rfl : rest = [] := hrest.symm
      exact absurd ⟨piece, rfl⟩ h.last
    | cons field fields =>
      rw [squeeze, hfields] at hrest
      rw [List.singleton_append, List.intercalate_cons_cons, hrest]
      simp

end InlineAudit.Text
