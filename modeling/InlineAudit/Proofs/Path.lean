import InlineAudit.Path
import InlineAudit.Proofs.Text.Lines
import Mathlib.Data.List.Infix

/-!
Paths and their components. A path is its components joined again, so that paths can be compared
component by component: `IsAbove` says that one path runs through another one. Cleaning an absolute
path leaves the names it consists of, and joining one more name to it adds just that.
-/

namespace InlineAudit.Path

open Text

/-- Some components are the first, but not all, of others. -/
def Extends (front place : List String) : Prop := front <+: place ∧ front ≠ place

instance (front place : List String) : Decidable (Extends front place) :=
  inferInstanceAs (Decidable (_ ∧ _))

/-- One path runs through another one. -/
def IsAbove (front path : String) : Prop := Extends (components front) (components path)

instance (front path : String) : Decidable (IsAbove front path) :=
  inferInstanceAs (Decidable (Extends _ _))

theorem extends_append_left (base front place : List String) :
    Extends (base ++ front) (base ++ place) ↔ Extends front place := by
  rw [Extends, Extends, List.prefix_append_right_inj, Ne, List.append_right_inj]

theorem extends_append_self {front rest : List String} (h : rest ≠ []) :
    Extends front (front ++ rest) :=
  ⟨List.prefix_append .., by simpa using h⟩

theorem components_ne_nil (path : String) : components path ≠ [] := by
  simpa [components, splitString] using splitAt_ne_nil '/' path.toList

theorem slash_not_mem_of_mem_components {path part : String} (h : part ∈ components path) :
    '/' ∉ part.toList := by
  obtain ⟨piece, hpiece, rfl⟩ := List.mem_map.mp h
  rw [String.toList_ofList]
  exact not_mem_of_mem_splitAt hpiece

theorem components_of_no_slash {name : String} (h : '/' ∉ name.toList) :
    components name = [name] := by
  simp [components, splitString, splitAt_of_not_mem h]

theorem components_slash (front rest : String) :
    components (front ++ "/" ++ rest) = components front ++ components rest := by
  have hslash : (front ++ "/" ++ rest).toList = front.toList ++ '/' :: rest.toList := by simp
  rw [components, splitString, hslash, splitAt_append, List.map_append]
  rfl

theorem components_join {names : List String} (h : names ≠ []) :
    components (join "/" names) = names.flatMap components := by
  induction names with
  | nil => exact absurd rfl h
  | cons name rest ih =>
    cases rest with
    | nil => simp [join]
    | cons next rest =>
      rw [join, String.intercalate_cons_cons, components_slash, List.flatMap_cons]
      exact congrArg _ (ih (by simp))

theorem join_components (path : String) : join "/" (components path) = path := by
  have htext : (components path).map String.toList = splitAt '/' path.toList := by
    simp [components, splitString]
  rw [← String.toList_inj, join, String.toList_intercalate, htext]
  exact intercalate_splitAt '/' path.toList

theorem components_inj {a b : String} : components a = components b ↔ a = b := by
  constructor
  · intro h
    rw [← join_components a, h, join_components]
  · exact fun h => h ▸ rfl

/-! ### Clean paths -/

/-- A component that names something in a directory. -/
structure IsName (part : String) : Prop where
  ne_empty : part ≠ ""
  ne_here : part ≠ "."
  ne_above : part ≠ ".."
  no_slash : '/' ∉ part.toList

theorem isName_iff {part : String} :
    IsName part ↔ part ≠ "" ∧ part ≠ "." ∧ part ≠ ".." ∧ '/' ∉ part.toList := by
  constructor
  · rintro ⟨hempty, hhere, habove, hslash⟩
    exact ⟨hempty, hhere, habove, hslash⟩
  · rintro ⟨hempty, hhere, habove, hslash⟩
    exact ⟨hempty, hhere, habove, hslash⟩

instance (part : String) : Decidable (IsName part) := decidable_of_iff' _ isName_iff

/-- The absolute path that consists of some names. -/
def rooted (names : List String) : String := "/" ++ join "/" names

theorem isAbsolute_iff {path : String} : isAbsolute path = true ↔ ['/'] <+: path.toList :=
  String.startsWith_string_iff

theorem isAbsolute_rooted (names : List String) : isAbsolute (rooted names) = true := by
  simp [isAbsolute_iff, rooted]

theorem mem_rooted_iff {names : List String} {c : Char} :
    c ∈ (rooted names).toList ↔ c = '/' ∨ ∃ name ∈ names, c ∈ name.toList := by
  have hslash : c ∈ "/".toList ↔ c = '/' := List.mem_singleton
  rw [rooted, String.toList_append, List.mem_append, hslash]
  induction names with
  | nil => simp [join]
  | cons name rest ih =>
    rw [join] at ih ⊢
    cases rest with
    | nil => simp
    | cons next rest =>
      rw [String.intercalate_cons_cons, String.toList_append, String.toList_append,
        List.mem_append, List.mem_append, hslash, List.exists_mem_cons_iff]
      grind

theorem isAbsolute_append {path : String} (h : isAbsolute path = true) (rest : String) :
    isAbsolute (path ++ rest) = true := by
  rw [isAbsolute_iff] at h ⊢
  rw [String.toList_append]
  exact h.trans (List.prefix_append ..)

theorem cleanFrom_skip {part : String} (h : part = "" ∨ part = ".") (absolute : Bool)
    (done rest : List String) :
    cleanFrom absolute done (part :: rest) = cleanFrom absolute done rest := by
  cases done <;> simp [cleanFrom, h]

theorem cleanFrom_name {part : String} (h : IsName part) (absolute : Bool)
    (done rest : List String) :
    cleanFrom absolute done (part :: rest) = cleanFrom absolute (part :: done) rest := by
  cases done <;> simp [cleanFrom, h.ne_empty, h.ne_here, h.ne_above]

/-- Going up from the root of an absolute path leads nowhere else. -/
theorem cleanFrom_above {done : List String} (h : ∀ name ∈ done, IsName name)
    (rest : List String) : cleanFrom true done (".." :: rest) = cleanFrom true done.tail rest := by
  cases done with
  | nil => simp [cleanFrom]
  | cons last more => simp [cleanFrom, (h last List.mem_cons_self).ne_above]

/-- Names are kept as they are. -/
theorem cleanFrom_names {names : List String} (hnames : ∀ name ∈ names, IsName name)
    (absolute : Bool) (done rest : List String) :
    cleanFrom absolute done (names ++ rest) = cleanFrom absolute (names.reverse ++ done) rest := by
  induction names generalizing done with
  | nil => rfl
  | cons name names ih =>
    rw [List.cons_append, cleanFrom_name (hnames name List.mem_cons_self),
      ih fun other hother => hnames other (List.mem_cons_of_mem _ hother), List.reverse_cons,
      List.append_assoc, List.singleton_append]

/-- Only names are left of an absolute path. -/
theorem isName_of_mem_cleanFrom {done parts : List String} (hdone : ∀ name ∈ done, IsName name)
    (hparts : ∀ part ∈ parts, '/' ∉ part.toList) :
    ∀ name ∈ cleanFrom true done parts, IsName name := by
  induction parts generalizing done with
  | nil => simpa [cleanFrom] using hdone
  | cons part parts ih =>
    have hrest : ∀ part ∈ parts, '/' ∉ part.toList :=
      fun other hother => hparts other (List.mem_cons_of_mem _ hother)
    by_cases hskip : part = "" ∨ part = "."
    · rw [cleanFrom_skip hskip]
      exact ih hdone hrest
    · rw [not_or] at hskip
      by_cases habove : part = ".."
      · rw [habove, cleanFrom_above hdone]
        exact ih (fun name hname => hdone name (List.mem_of_mem_tail hname)) hrest
      · have hpart : IsName part :=
          ⟨hskip.1, hskip.2, habove, hparts part List.mem_cons_self⟩
        rw [cleanFrom_name hpart]
        exact ih (List.forall_mem_cons.mpr ⟨hpart, hdone⟩) hrest

theorem exists_clean_eq {path : String} (h : isAbsolute path = true) :
    ∃ names, (∀ name ∈ names, IsName name) ∧ clean path = rooted names := by
  refine ⟨cleanFrom true [] (components path), ?_, ?_⟩
  · exact isName_of_mem_cleanFrom (by simp) fun part => slash_not_mem_of_mem_components
  · rw [clean, h, if_pos rfl, rooted]

/-- A path seen from an absolute directory consists of names. -/
theorem exists_absolute_eq {cwd : String} (h : isAbsolute cwd = true) (path : String) :
    ∃ names, (∀ name ∈ names, IsName name) ∧ absolute cwd path = rooted names := by
  rw [absolute]
  split
  · rename_i hpath
    exact exists_clean_eq hpath
  · rw [joinTo]
    have hcwd : cwd ≠ "" := by
      rintro rfl
      simp [isAbsolute_iff] at h
    rw [if_neg hcwd]
    split
    · exact exists_clean_eq h
    · exact exists_clean_eq (isAbsolute_append (isAbsolute_append h "/") path)

theorem components_rooted {names : List String} (hnames : ∀ name ∈ names, IsName name) :
    components (rooted names) = "" :: if names = [] then [""] else names := by
  split
  · rename_i h
    rw [h]
    decide +kernel
  · rename_i h
    have hslash : rooted names = "" ++ "/" ++ join "/" names := by simp [rooted]
    have hjoined : names.flatMap components = names := by
      rw [List.flatMap_congr fun name hname => components_of_no_slash (hnames name hname).no_slash]
      simp
    rw [hslash, components_slash, components_join h, hjoined]
    rfl

/-- A name is joined to a path by one more slash. -/
theorem joinTo_rooted {names : List String} (hnames : ∀ name ∈ names, IsName name) {name : String}
    (hname : IsName name) : joinTo (rooted names) name = rooted (names ++ [name]) := by
  have hbase : rooted names ≠ "" := by simp [rooted]
  have habsolute : isAbsolute (rooted names ++ "/" ++ name) = true :=
    isAbsolute_append (isAbsolute_append (isAbsolute_rooted names) "/") name
  have hparts : cleanFrom true [] (components (rooted names ++ "/" ++ name)) = names ++ [name] := by
    rw [components_slash, components_rooted hnames, components_of_no_slash hname.no_slash]
    have hall : ∀ other ∈ names ++ [name], IsName other := by
      simpa [or_imp, forall_and] using ⟨hnames, hname⟩
    have hclean := cleanFrom_names hall true [] []
    rw [List.append_nil, List.append_nil, cleanFrom, List.reverse_reverse] at hclean
    rw [List.cons_append, cleanFrom_skip (Or.inl rfl)]
    split
    · rename_i h
      subst h
      exact (cleanFrom_skip (Or.inl rfl) ..).trans hclean
    · exact hclean
  rw [joinTo, if_neg hbase, if_neg hname.ne_empty, clean, habsolute, if_pos rfl, hparts, rooted]

end InlineAudit.Path
