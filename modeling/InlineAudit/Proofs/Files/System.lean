import InlineAudit.Files.System
import InlineAudit.Proofs.Path

/-!
Paths in a file system. A path that leads to a directory, be it through links, leads with one more
name to the entry of that name; so if there is no such entry, it leads nowhere. Main statement:
`System.find_joinTo`, for the paths that other modules make by joining.
-/

namespace InlineAudit.Files

open InlineAudit.Path Text

/-- A name that a file system takes. -/
structure IsEntryName (name : String) : Prop extends IsName name where
  short : name.utf8ByteSize ≤ 255
  no_nul : '\x00' ∉ name.toList

theorem isEntryName_iff {name : String} :
    IsEntryName name ↔ IsName name ∧ name.utf8ByteSize ≤ 255 ∧ '\x00' ∉ name.toList := by
  constructor
  · intro h
    exact ⟨h.toIsName, h.short, h.no_nul⟩
  · rintro ⟨hname, hshort, hnul⟩
    exact ⟨hname, hshort, hnul⟩

instance (name : String) : Decidable (IsEntryName name) := decidable_of_iff' _ isEntryName_iff

section

variable {name : String} {top : List Node} {follow : Bool} {links : Nat}
  {stack : List (List Node × Access)} {entries : List Node} {access : Access}

/-- A name that is not there ends the way. -/
theorem locate_missing (hname : IsEntryName name)
    (hmissing : lookupEntry name (stack.headD (top, {})).1 = none) :
    locate top follow links stack [name] = .error .noEntry := by
  have hshort : ¬name.utf8ByteSize > 255 := Nat.not_lt.mpr hname.short
  rw [locate, if_neg (by simp [hname.ne_empty, hname.ne_here]), if_neg hname.ne_above,
    if_neg hshort, hmissing]

/-- A name that is there leads to its entry, unless that is a link. -/
theorem locate_entry (hname : IsEntryName name) {node : Node}
    (hentry : lookupEntry name (stack.headD (top, {})).1 = some node)
    (hlink : ∀ own target, node ≠ .link own target) :
    locate top follow links stack [name] = .ok node := by
  have hshort : ¬name.utf8ByteSize > 255 := Nat.not_lt.mpr hname.short
  rw [locate, if_neg (by simp [hname.ne_empty, hname.ne_here]), if_neg hname.ne_above,
    if_neg hshort, hentry]
  cases node with
  | file own content access => rfl
  | dir own entries access => rfl
  | link own target => exact absurd rfl (hlink own target)

/-- Whatever way leads to a directory that may be searched, it leads on to what a name stands for
there. The induction is on the steps of the way, where a link puts its target in its place. -/
theorem locate_concat {path : List String} {own : String} {found : Except Fault Node}
    (h : locate top follow links stack path = .ok (.dir own entries access))
    (hsearch : access.search = true)
    (hfound : ∀ links stack, (stack.headD (top, {})).1 = entries →
      locate top follow links stack [name] = found) :
    locate top follow links stack (path ++ [name]) = found := by
  fun_induction locate top follow links stack path with
  | case1 links stack inner permits hstack =>
    obtain ⟨-, rfl, -⟩ : "" = own ∧ inner = entries ∧ permits = access := by simpa using h
    exact hfound links stack (by rw [hstack])
  | case2 links stack part rest hskip ih =>
    rw [List.cons_append, locate, if_pos hskip]
    exact ih h
  | case3 links stack rest hskip ih =>
    rw [List.cons_append, locate, if_neg hskip, if_pos rfl]
    exact ih h
  | case8 links stack part rest hskip habove hshort other inner permits hentry hlast =>
    obtain ⟨-, rfl, rfl⟩ : other = own ∧ inner = entries ∧ permits = access := by simpa using h
    obtain rfl : rest = [] := List.isEmpty_iff.mp hlast
    rw [List.cons_append, locate, if_neg hskip, if_neg habove, if_neg hshort, hentry]
    simp only [List.nil_append, List.isEmpty_cons, Bool.false_eq_true, if_false, hsearch, if_true]
    exact hfound links ((inner, permits) :: stack) rfl
  | case9 links stack part rest hskip habove hshort other inner permits hentry hlast hopen ih =>
    rw [List.cons_append, locate, if_neg hskip, if_neg habove, if_neg hshort, hentry]
    have hmore : (rest ++ [name]).isEmpty = false := by simp
    simp only [hmore, Bool.false_eq_true, if_false, hopen, if_true]
    exact ih h
  | case13 stack part rest hskip habove hshort other target hentry hstop left ih =>
    rw [List.cons_append, locate, if_neg hskip, if_neg habove, if_neg hshort, hentry]
    have hmore : (rest ++ [name]).isEmpty = false := by simp
    simp only [hmore, Bool.false_and, Bool.false_eq_true, if_false]
    rw [← List.append_assoc]
    exact ih h
  | _ => cases h

/-- Empty components count for nothing. -/
theorem locate_skip (part : String) (path : List String) (hskip : part = "" ∨ part = ".") :
    locate top follow links stack (part :: path) = locate top follow links stack path := by
  rw [locate, if_pos (by simpa using hskip)]

end

theorem nul_not_mem_of_find {system : System} {path : String} {follow : Bool} {node : Node}
    (h : system.find follow path = .ok node) : '\x00' ∉ path.toList := by
  intro hnul
  rw [System.find] at h
  split at h
  · cases h
  · rw [if_pos (List.contains_iff_mem.mpr hnul)] at h
    cases h

theorem nul_not_mem_rooted_iff {names : List String} :
    '\x00' ∉ (rooted names).toList ↔ ∀ name ∈ names, '\x00' ∉ name.toList := by
  simp [mem_rooted_iff]

/-- An absolute path is followed name by name. -/
theorem find_rooted (system : System) (follow : Bool) {names : List String}
    (hnames : ∀ name ∈ names, IsName name) (hnul : '\x00' ∉ (rooted names).toList) :
    system.find follow (rooted names) = locate system.top follow maxLinks [] names := by
  have hne : rooted names ≠ "" := by simp [rooted]
  have hcontains : ¬(rooted names).toList.contains '\x00' = true := by
    rwa [List.contains_iff_mem]
  rw [System.find, if_neg hne, if_neg hcontains]
  simp only [isAbsolute_rooted, if_true]
  rw [components_rooted hnames, locate_skip _ _ (Or.inl rfl)]
  split
  · rename_i h
    rw [h, locate_skip _ _ (Or.inl rfl)]
  · rfl

section

variable {system : System} {follow : Bool} {names : List String} {name own : String}
  {entries : List Node} {access : Access}

/-- What stands at the top is found by its name. -/
theorem System.find_top (hname : IsEntryName name) {node : Node}
    (hentry : lookupEntry name system.top = some node)
    (hlink : ∀ own target, node ≠ .link own target) :
    system.find follow (rooted [name]) = .ok node := by
  have hnul := nul_not_mem_rooted_iff.mpr (List.forall_mem_singleton.mpr hname.no_nul)
  rw [find_rooted system follow (List.forall_mem_singleton.mpr hname.toIsName) hnul]
  exact locate_entry hname hentry hlink

/-- What is found in a directory that may be searched is what its name stands for there. -/
theorem System.find_joinTo {found : Except Fault Node} (hnames : ∀ name ∈ names, IsName name)
    (hname : IsEntryName name)
    (h : system.find follow (rooted names) = .ok (.dir own entries access))
    (hsearch : access.search = true)
    (hfound : ∀ links stack, (stack.headD (system.top, {})).1 = entries →
      locate system.top follow links stack [name] = found) :
    system.find follow (joinTo (rooted names) name) = found := by
  have hnul := nul_not_mem_of_find h
  have hall : ∀ other ∈ names ++ [name], IsName other := by
    simpa [or_imp, forall_and] using ⟨hnames, hname.toIsName⟩
  have hjoined : '\x00' ∉ (rooted (names ++ [name])).toList := by
    rw [nul_not_mem_rooted_iff] at hnul ⊢
    simpa [or_imp, forall_and] using ⟨hnul, hname.no_nul⟩
  rw [joinTo_rooted hnames hname.toIsName, find_rooted system follow hall hjoined]
  rw [find_rooted system follow hnames hnul] at h
  exact locate_concat h hsearch hfound

/-- What is not in a directory is not found there. -/
theorem System.find_joinTo_missing (hnames : ∀ name ∈ names, IsName name)
    (hname : IsEntryName name)
    (h : system.find follow (rooted names) = .ok (.dir own entries access))
    (hsearch : access.search = true) (hmissing : lookupEntry name entries = none) :
    system.find follow (joinTo (rooted names) name) = .error .noEntry :=
  find_joinTo hnames hname h hsearch fun _ _ hstack =>
    locate_missing hname (hstack ▸ hmissing)

/-- A readable file that is in a directory is read there. -/
theorem System.read_joinTo (hnames : ∀ name ∈ names, IsName name) (hname : IsEntryName name)
    (h : system.find true (rooted names) = .ok (.dir own entries access))
    (hsearch : access.search = true) {content : Bytes} {permits : Access}
    (hread : permits.read = true)
    (hentry : lookupEntry name entries = some (.file name content permits)) :
    system.read (joinTo (rooted names) name) = .ok content := by
  have hfind : system.find true (joinTo (rooted names) name) =
      .ok (.file name content permits) :=
    find_joinTo hnames hname h hsearch fun _ _ hstack =>
      locate_entry hname (hstack ▸ hentry) fun _ _ hlink => nomatch hlink
  rw [read, hfind]
  simp only [hread, if_true]

end

end InlineAudit.Files
