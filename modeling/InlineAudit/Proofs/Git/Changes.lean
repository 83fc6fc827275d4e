import InlineAudit.Proofs.Git.Diff
import InlineAudit.Proofs.Text.Lower
import InlineAudit.Proofs.Text.Utf8
import Mathlib.Data.List.TakeWhile

/-!
From the changes of files to the difference that is read from their counting lines. The counts of a
line are read back digit by digit. The path is not: it is taken apart at white space and put
together with single spaces, so that a path with a space to spare comes back as another one, and
the file with that path is left out. All other paths come back as they were, with their counts.
-/

namespace InlineAudit.Git

open Text

/-- The lines that a file gained and lost. -/
structure Change where
  added : Nat
  removed : Nat
  path : String
  deriving DecidableEq, Repr

namespace Change

def count (change : Change) : ChangeCount := ⟨change.added, change.removed⟩

/-- The counting line of a change. -/
def line (change : Change) : String :=
  toString change.added ++ "\t" ++ toString change.removed ++ "\t" ++ change.path

/-- The counts fit into 64 bits, and the path is printed without quotes: it is made of printable
characters, of which none is a quote or a backslash, and not of spaces only. -/
structure IsPlain (change : Change) : Prop where
  added_le : (change.added : Int) ≤ int64Max
  removed_le : (change.removed : Int) ≤ int64Max
  printable : ∀ c ∈ change.path.toList, ' ' ≤ c ∧ c ≤ '~' ∧ c ≠ '"' ∧ c ≠ '\\'
  not_blank : ∃ c ∈ change.path.toList, c ≠ ' '

end Change

/-- The output that counts some changes, a line for each. -/
def printed (changes : List Change) : Bytes :=
  encodeString (String.join (changes.map fun change => change.line ++ "\n"))

/-- A path with single spaces in place of its white space. -/
def squeezed (path : String) : String := String.ofList (squeeze path.toList)

/-! ### Counts -/

theorem digitsValue_toDigits (n : Nat) : digitsValue (Nat.toDigits 10 n) = n := by
  have hvalue := Nat.ofDigitChars_toDigits (b := 10) (n := n) (by decide) (by decide)
  rw [Nat.ofDigitChars_eq_foldl] at hvalue
  simpa only [digitsValue, Nat.mul_comm] using hvalue

theorem isDigit_of_mem_toDigits {n : Nat} {c : Char} (h : c ∈ Nat.toDigits 10 n) :
    c.isDigit = true :=
  Nat.isDigit_of_mem_toDigits (by decide) (by decide) h

/-- A digit is neither a sign nor white space. -/
theorem decimal_facts {c : Char} (h : c.isDigit = true) :
    c ≠ '-' ∧ c ≠ '+' ∧ c ≠ '\n' ∧ isBlank c = false := by
  have hascii : c.toNat < 0x80 := by
    simp only [Char.isDigit, Bool.and_eq_true, decide_eq_true_eq] at h
    exact Nat.lt_of_le_of_lt (UInt32.le_iff_toNat_le.mp h.2) (by decide)
  exact forall_ascii
    (p := fun c => c.isDigit = true → c ≠ '-' ∧ c ≠ '+' ∧ c ≠ '\n' ∧ isBlank c = false)
    (by decide +kernel) hascii h

theorem splitSign_toDigits (n : Nat) :
    splitSign (Nat.toDigits 10 n) = (false, Nat.toDigits 10 n) := by
  cases hdigits : Nat.toDigits 10 n with
  | nil => rfl
  | cons c rest =>
    have hc : c ∈ Nat.toDigits 10 n := hdigits ▸ List.mem_cons_self
    obtain ⟨hminus, hplus, -⟩ := decimal_facts (isDigit_of_mem_toDigits hc)
    rw [splitSign]
    · exact fun rest heq => hminus (List.cons.inj heq).1
    · exact fun rest heq => hplus (List.cons.inj heq).1

/-- A number that fits is read back from its digits. -/
theorem leadingCount_toDigits {n : Nat} (h : (n : Int) ≤ int64Max) :
    leadingCount (Nat.toDigits 10 n) = n := by
  have hall : (Nat.toDigits 10 n).takeWhile Char.isDigit = Nat.toDigits 10 n :=
    List.takeWhile_eq_self_iff.mpr fun c hc => isDigit_of_mem_toDigits hc
  have hne : (Nat.toDigits 10 n).isEmpty = false :=
    List.isEmpty_eq_false_iff.mpr Nat.toDigits_ne_nil
  have hmin : ¬(n : Int) < int64Min := by
    rw [int64Min]
    omega
  simp [leadingCount, splitSign_toDigits, hall, hne, digitsValue_toDigits, hmin, h]

/-! ### Lines -/

theorem Change.toList_line (change : Change) :
    change.line.toList = Nat.toDigits 10 change.added ++
      '\t' :: (Nat.toDigits 10 change.removed ++ '\t' :: change.path.toList) := by
  simp [line]

/-- A printable character is white space only if it is a space. -/
theorem printable_facts {c : Char} (hfirst : ' ' ≤ c) (hlast : c ≤ '~') :
    c ≠ '\n' ∧ (isBlank c = true → c = ' ') := by
  have hascii : c.toNat < 0x80 :=
    Nat.lt_of_le_of_lt (UInt32.le_iff_toNat_le.mp hlast) (by decide)
  exact forall_ascii
    (p := fun c => ' ' ≤ c → c ≤ '~' → c ≠ '\n' ∧ (isBlank c = true → c = ' '))
    (by decide +kernel) hascii hfirst hlast

namespace Change.IsPlain

variable {change : Change}

theorem spaces (h : change.IsPlain) : ∀ c ∈ change.path.toList, isBlank c = true → c = ' ' := by
  intro c hc
  obtain ⟨hfirst, hlast, -⟩ := h.printable c hc
  exact (printable_facts hfirst hlast).2

theorem fields_ne_nil (h : change.IsPlain) : fieldsBy isBlank change.path.toList ≠ [] := by
  obtain ⟨c, hc, hne⟩ := h.not_blank
  exact fun hnil => hne (h.spaces c hc (fieldsBy_eq_nil_iff.mp hnil c hc))

theorem lineFeed_not_mem (h : change.IsPlain) : '\n' ∉ change.line.toList := by
  have hnumber : ∀ n, '\n' ∉ Nat.toDigits 10 n :=
    fun n hn => (decimal_facts (isDigit_of_mem_toDigits hn)).2.2.1 rfl
  have hpath : '\n' ∉ change.path.toList := by
    intro hc
    obtain ⟨hfirst, hlast, -⟩ := h.printable _ hc
    exact (printable_facts hfirst hlast).1 rfl
  rw [toList_line]
  simp [hnumber, hpath]

/-- The fields of a counting line are the two numbers and those of the path. -/
theorem fieldsBy_line (change : Change) :
    fieldsBy isBlank change.line.toList = Nat.toDigits 10 change.added ::
      Nat.toDigits 10 change.removed :: fieldsBy isBlank change.path.toList := by
  have hnumber : ∀ n, fieldsBy isBlank (Nat.toDigits 10 n) = [Nat.toDigits 10 n] := fun n =>
    fieldsBy_of_no_blank Nat.toDigits_ne_nil fun c hc =>
      (decimal_facts (isDigit_of_mem_toDigits hc)).2.2.2
  rw [toList_line, fieldsBy_append_blank rfl, fieldsBy_append_blank rfl, hnumber, hnumber]
  rfl

end Change.IsPlain

/-- The fields of a text are put together to the text without its surplus spaces. -/
theorem intercalate_map_char (path : String) :
    [.char ' '].intercalate ((fieldsBy isBlank path.toList).map (List.map Symbol.char)) =
      (Raw.ofString (squeezed path)).symbols := by
  rw [squeezed, Raw.ofString, String.toList_ofList, squeeze, map_intercalate]
  rfl

/-- A counting line gives the counts, and the path without its surplus spaces. -/
theorem counted?_line {change : Change} (h : change.IsPlain) :
    counted? (change.line.toList.map .char) =
      some (.ofString (squeezed change.path), change.count) := by
  obtain ⟨first, more, hfields⟩ := List.exists_cons_of_ne_nil h.fields_ne_nil
  have hpath := intercalate_map_char change.path
  rw [hfields] at hpath
  have hshown : ∀ n, ((Nat.toDigits 10 n).map Symbol.char).map Symbol.toChar =
      Nat.toDigits 10 n := by
    intro n
    simp [Function.comp_def, Symbol.toChar]
  have hblank : isBlankSymbol ∘ Symbol.char = isBlank := rfl
  rw [counted?, fieldsBy_map, hblank, Change.IsPlain.fieldsBy_line, hfields]
  simp only [List.map_cons, countedFields?]
  rw [← List.map_cons, hpath, hshown, hshown, leadingCount_toDigits h.added_le,
    leadingCount_toDigits h.removed_le]
  rfl

theorem symbols_printed (changes : List Change) :
    symbols (printed changes) =
      (changes.flatMap fun change => change.line.toList ++ ['\n']).map .char := by
  refine (congrArg Raw.symbols (Raw.ofBytes_encodeString _)).trans
    (congrArg (List.map Symbol.char) ?_)
  induction changes with
  | nil => rfl
  | cons change changes ih =>
    rw [List.map_cons, String.join_cons, String.toList_append, ih]
    simp

/-- The lines of the output are the counting lines, and an empty one. -/
theorem allLines_printed {changes : List Change} (h : ∀ change ∈ changes, change.IsPlain) :
    allLines (printed changes) = changes.map (·.line.toList.map .char) ++ [[]] := by
  have hmap : ∀ c, Symbol.char c = .char '\n' ↔ c = '\n' := by simp
  rw [allLines, symbols_printed, splitAt_map hmap]
  induction changes with
  | nil => rfl
  | cons change changes ih =>
    have hline := (h change List.mem_cons_self).lineFeed_not_mem
    rw [List.flatMap_cons, List.append_assoc, List.singleton_append, splitAt_append,
      splitAt_of_not_mem hline, List.map_append,
      ih fun other hother => h other (List.mem_cons_of_mem _ hother)]
    rfl

/-- What is read from the output. -/
theorem counts_printed {changes : List Change} (h : ∀ change ∈ changes, change.IsPlain) :
    readCounts (printed changes) =
      lastOf (changes.map fun change => (.ofString (squeezed change.path), change.count)) := by
  have hread : (changes.map fun change => change.line.toList.map Symbol.char).filterMap counted? =
      changes.map fun change => (.ofString (squeezed change.path), change.count) := by
    rw [List.filterMap_map, ← List.filterMap_eq_map (f := fun change : Change =>
      (Raw.ofString (squeezed change.path), change.count))]
    refine List.filterMap_congr fun change hchange => ?_
    rw [Function.comp_apply, counted?_line (h change hchange), Function.comp_apply]
  rw [readCounts_eq, allLines_printed h, List.filterMap_append, hread]
  exact congrArg lastOf (List.append_nil _)

/-! ### The difference -/

/-- A difference lists some changes: the changed paths are theirs, with their counts, no path is
untracked, and of any files those are kept that have one of these paths. -/
structure ListsChanges (diff : Diff) (changes : List Change) : Prop where
  changed_iff : ∀ path, path ∈ diff.changed ↔ ∃ change ∈ changes, Raw.ofString change.path = path
  counts_iff : ∀ path count, diff.counts.lookup path = some count ↔
    ∃ change ∈ changes, Raw.ofString change.path = path ∧ change.count = count
  untracked_eq : diff.untracked = []
  keeps : ∀ files : List SourceFile, (diff.keepChanged files).map (·.path) =
    (files.map (·.path)).filter fun path => path ∈ changes.map (·.path)

theorem readPaths_nil : readPaths [] = [] := by
  simp [readPaths, outputLines, symbols, symbolsFrom, trimBy, Text.splitAt]

/-- The changed paths are those of the changes without their surplus spaces. -/
theorem mem_changed_printed_iff {changes : List Change} (h : ∀ change ∈ changes, change.IsPlain)
    {path : Raw} : path ∈ (Diff.ofOutputs (printed changes) []).changed ↔
      ∃ change ∈ changes, .ofString (squeezed change.path) = path := by
  rw [(ofOutputs_describes _ _).changed_iff, Diff.ofOutputs_counts, Diff.ofOutputs_untracked,
    counts_printed h, readPaths_nil, mem_keys_lastOf]
  simp

theorem squeezed_eq_iff {change : Change} (h : change.IsPlain) :
    squeezed change.path = change.path ↔ IsTight change.path.toList := by
  rw [squeezed, ← String.toList_inj, String.toList_ofList]
  exact ⟨isTight_of_squeeze_eq, fun htight => htight.squeeze_eq h.spaces⟩

/-- The path of a change is among the changed ones just if it has no space to spare. -/
theorem path_mem_changed_iff {changes : List Change} (h : ∀ change ∈ changes, change.IsPlain)
    {change : Change} (hchange : change ∈ changes) :
    .ofString change.path ∈ (Diff.ofOutputs (printed changes) []).changed ↔
      IsTight change.path.toList := by
  rw [mem_changed_printed_iff h, ← squeezed_eq_iff (h change hchange)]
  constructor
  · rintro ⟨other, -, hother⟩
    have hpath : squeezed other.path = change.path := Raw.ofString_injective hother
    rw [← hpath, squeezed, squeezed, String.toList_ofList, squeeze_squeeze]
  · exact fun hpath => ⟨change, hchange, congrArg Raw.ofString hpath⟩

/-- Changes with paths that have no space to spare are listed. -/
theorem listsChanges_of_tight {changes : List Change} (h : ∀ change ∈ changes, change.IsPlain)
    (hdistinct : (changes.map (·.path)).Nodup)
    (htight : ∀ change ∈ changes, IsTight change.path.toList) :
    ListsChanges (.ofOutputs (printed changes) []) changes := by
  have hpaths : changes.map (fun change => (Raw.ofString (squeezed change.path), change.count)) =
      changes.map fun change => (Raw.ofString change.path, change.count) := by
    refine List.map_congr_left fun change hchange => ?_
    rw [(squeezed_eq_iff (h change hchange)).mpr (htight change hchange)]
  have hcounts : (Diff.ofOutputs (printed changes) []).counts =
      changes.map fun change => (Raw.ofString change.path, change.count) := by
    rw [Diff.ofOutputs_counts, counts_printed h, hpaths]
    refine lastOf_of_nodup ?_
    have hkeys := hdistinct.map Raw.ofString_injective
    rwa [List.map_map] at hkeys ⊢
  have hkeys : ((Diff.ofOutputs (printed changes) []).counts.map (·.1)).Nodup :=
    (ofOutputs_describes _ _).counts_nodup
  have hchanged : ∀ path, path ∈ (Diff.ofOutputs (printed changes) []).changed ↔
      ∃ change ∈ changes, Raw.ofString change.path = path := by
    intro path
    rw [mem_changed_printed_iff h]
    refine exists_congr fun change => and_congr_right fun hchange => ?_
    rw [(squeezed_eq_iff (h change hchange)).mpr (htight change hchange)]
  refine ⟨hchanged, ?_, ?_, ?_⟩
  · intro path count
    rw [lookup_eq_some_iff_mem hkeys, hcounts]
    simp
  · rw [Diff.ofOutputs_untracked, readPaths_nil]
  · intro files
    rw [Diff.keepChanged_paths]
    refine List.filter_congr fun path _ => decide_eq_decide.mpr ?_
    rw [hchanged, List.mem_map]
    simp only [Raw.ofString_injective.eq_iff]

/-- The difference that is read from the counting lines of some changes. Its changed paths are
those of the changes without their surplus spaces. So it lists the changes exactly if no path has a
space at an end or two spaces in a row, and it misses every path that has. -/
theorem printed_changes_listed {changes : List Change} (hplain : ∀ change ∈ changes, change.IsPlain)
    (hdistinct : (changes.map (·.path)).Nodup) {git : Executable} {ref : String}
    (hcounting : git (diffArguments ref) = .ok (printed changes))
    (hlisting : git untrackedArguments = .ok []) :
    ∃ diff, (diffAgainst git ref).1 = .ok diff ∧
      (∀ path, path ∈ diff.changed ↔
        ∃ change ∈ changes, Raw.ofString (squeezed change.path) = path) ∧
      (∀ change ∈ changes, Raw.ofString change.path ∈ diff.changed ↔
        IsTight change.path.toList) ∧
      (ListsChanges diff changes ↔ ∀ change ∈ changes, IsTight change.path.toList) := by
  refine ⟨.ofOutputs (printed changes) [], ?_, fun path => mem_changed_printed_iff hplain,
    fun change hchange => path_mem_changed_iff hplain hchange, ?_, ?_⟩
  · rw [diffAgainst, hcounting, hlisting]
  · intro hlists change hchange
    rw [← path_mem_changed_iff hplain hchange, hlists.changed_iff]
    exact ⟨change, hchange, rfl⟩
  · exact listsChanges_of_tight hplain hdistinct

/-- A git that counts some changes and knows all files. -/
def gitPrinting (changes : List Change) : Executable := fun arguments =>
  .ok (if arguments = untrackedArguments then [] else printed changes)

/-- Two changes, one of a path with a space. -/
def spacedChanges : List Change := [⟨3, 0, "src/My Class.java"⟩, ⟨0, 12, "b.py"⟩]

theorem spacedChanges_plain : ∀ change ∈ spacedChanges, change.IsPlain := by
  refine List.forall_mem_cons.mpr ⟨?_, List.forall_mem_cons.mpr ⟨?_, List.forall_mem_nil _⟩⟩
  · exact ⟨by decide, by decide, forall_mem_of_all (by decide), '.', by decide, by decide⟩
  · exact ⟨by decide, by decide, forall_mem_of_all (by decide), '.', by decide, by decide⟩

theorem spacedChanges_listed :
    (∀ change ∈ spacedChanges, change.IsPlain) ∧ (spacedChanges.map (·.path)).Nodup ∧
    ∃ diff, (diffAgainst (gitPrinting spacedChanges) "main").1 = .ok diff ∧
      ListsChanges diff spacedChanges := by
  have hdistinct : (spacedChanges.map (·.path)).Nodup := by decide
  have hcounting : gitPrinting spacedChanges (diffArguments "main") =
      .ok (printed spacedChanges) := rfl
  obtain ⟨diff, hdiff, -, -, hlists⟩ :=
    printed_changes_listed spacedChanges_plain hdistinct hcounting rfl
  refine ⟨spacedChanges_plain, hdistinct, diff, hdiff, hlists.mpr ?_⟩
  exact List.forall_mem_cons.mpr ⟨by decide, List.forall_mem_cons.mpr ⟨by decide,
    List.forall_mem_nil _⟩⟩

/-- A change of a path with two spaces in a row. -/
def doubledSpace : Change := ⟨1, 2, "a  b.py"⟩

/-- The difference has another path in its place, and misses the file. -/
theorem doubledSpace_missed :
    doubledSpace.IsPlain ∧
    ∃ diff, (diffAgainst (gitPrinting [doubledSpace]) "main").1 = .ok diff ∧
      diff.changed = [Raw.ofString "a b.py"] ∧ ¬ListsChanges diff [doubledSpace] ∧
      ∀ file : SourceFile, file.path = doubledSpace.path → diff.keepChanged [file] = [] := by
  have hplain : doubledSpace.IsPlain :=
    ⟨by decide, by decide, forall_mem_of_all (by decide), '.', by decide, by decide⟩
  have hchanged : (Diff.ofOutputs (printed [doubledSpace]) []).changed =
      [Raw.ofString "a b.py"] := by
    decide +kernel
  refine ⟨hplain, .ofOutputs (printed [doubledSpace]) [], rfl, hchanged, ?_, ?_⟩
  · intro hlists
    have hmissed : Raw.ofString "a  b.py" ∉
        (Diff.ofOutputs (printed [doubledSpace]) []).changed := by
      rw [hchanged]
      decide
    exact hmissed ((hlists.changed_iff _).mpr ⟨doubledSpace, List.mem_cons_self, rfl⟩)
  · intro file hpath
    have hdropped : [Raw.ofString "a b.py"].contains (.ofString file.path) = false := by
      rw [hpath]
      decide
    rw [Diff.keepChanged, hchanged, List.filter_cons_of_neg (by rw [hdropped]; simp)]
    rfl

end InlineAudit.Git
