import InlineAudit.Proofs.Git.Changes

/-!
Counting lines with any path, byte for byte. The line of two counts and a path gives the counts, and
the fields of the path with a space between neighbours. So the path comes back, and is seen by the
filter under its own name, just if its white space is single spaces between other characters.
-/

namespace InlineAudit.Git

open Text

/-- A count as a counting line shows it: so many lines, or a dash for a binary file. -/
inductive Column where
  | lines (n : Nat)
  | binary
  deriving DecidableEq, Repr

namespace Column

def text : Column → String
  | lines n => toString n
  | binary => "-"

def count : Column → Int
  | lines n => n
  | binary => 0

/-- The count fits into 64 bits. -/
def Fits : Column → Prop
  | lines n => (n : Int) ≤ int64Max
  | binary => True

theorem toList_lines (n : Nat) : (lines n).text.toList = Nat.toDigits 10 n := by
  simp [text]

theorem text_ne_nil (column : Column) : column.text.toList ≠ [] := by
  cases column with
  | lines n =>
    rw [toList_lines]
    exact Nat.toDigits_ne_nil
  | binary => exact List.cons_ne_nil _ _

theorem text_no_blank (column : Column) : ∀ c ∈ column.text.toList, isBlank c = false := by
  cases column with
  | lines n =>
    intro c hc
    rw [toList_lines] at hc
    exact (decimal_facts (isDigit_of_mem_toDigits hc)).2.2.2
  | binary =>
    intro c hc
    obtain rfl : c = '-' := List.mem_singleton.mp hc
    rfl

theorem leadingCount_text {column : Column} (h : column.Fits) :
    leadingCount column.text.toList = column.count := by
  cases column with
  | lines n =>
    rw [toList_lines]
    exact leadingCount_toDigits h
  | binary => rfl

end Column

/-- The line of two counts and a path. -/
def countingLine (added removed : Column) (path : Bytes) : Bytes :=
  encodeString (added.text ++ "\t" ++ removed.text ++ "\t") ++ path

/-- What a line gives, the path byte for byte. -/
def readLine? (line : Bytes) : Option (Bytes × ChangeCount) :=
  (numstat? (symbols line)).map fun (path, count) => (unread path, count)

/-- Bytes consist of fields with white space around and between them. -/
def HasFields (bytes : Bytes) (fields : List Bytes) : Prop :=
  ∃ parts, Fields isBlankSymbol (symbols bytes) parts ∧ fields = parts.map unread

/-- Fields with a space between neighbours. -/
def spaced (fields : List Bytes) : Bytes := [0x20].intercalate fields

/-! ### Fields of lines -/

theorem unread_intercalate (parts : List (List Symbol)) :
    unread ([.char ' '].intercalate parts) = spaced (parts.map unread) := by
  induction parts with
  | nil => rfl
  | cons part parts ih =>
    cases parts with
    | nil => simp [spaced]
    | cons next parts =>
      rw [List.intercalate_cons_cons, unread_append, unread_append, ih]
      simp only [spaced, List.map_cons, List.intercalate_cons_cons]
      rfl

theorem numstat?_of_fields {line : List Symbol} {added removed : List Symbol}
    {names : List (List Symbol)}
    (h : fieldsBy isBlankSymbol line = added :: removed :: names) (hne : names ≠ []) :
    numstat? line = some ([.char ' '].intercalate names,
      ⟨leadingCount (added.map Symbol.toChar), leadingCount (removed.map Symbol.toChar)⟩) := by
  obtain ⟨first, more, rfl⟩ := List.exists_cons_of_ne_nil hne
  rw [numstat?, h]
  show some (more.foldl _ first, _) = _
  rw [foldl_path]

theorem numstat?_eq_none_iff {line : List Symbol} :
    numstat? line = none ↔ (fieldsBy isBlankSymbol line).length < 3 := by
  rw [numstat?]
  split
  · rename_i hfields
    simp [hfields]
  · rename_i hfew
    refine iff_of_true rfl ?_
    rcases hfields : fieldsBy isBlankSymbol line with _ | ⟨added, _ | ⟨removed, _ | ⟨first, more⟩⟩⟩
    · simp
    · simp
    · simp
    · exact absurd hfields (hfew added removed first more)

theorem fieldsBy_column (column : Column) (rest : List Symbol) :
    fieldsBy isBlankSymbol (column.text.toList.map .char ++ .char '\t' :: rest) =
      column.text.toList.map .char :: fieldsBy isBlankSymbol rest := by
  have hone : fieldsBy isBlankSymbol (column.text.toList.map .char) =
      [column.text.toList.map .char] := by
    refine fieldsBy_of_no_blank (mt List.map_eq_nil_iff.mp column.text_ne_nil) ?_
    simpa [isBlankSymbol, Symbol.toChar] using column.text_no_blank
  have htab : isBlankSymbol (.char '\t') = true := rfl
  rw [fieldsBy_append_blank htab, hone, List.singleton_append]

/-- The fields of a line are the two counts and those of the path. -/
theorem fieldsBy_countingLine (added removed : Column) (path : Bytes) :
    fieldsBy isBlankSymbol (symbols (countingLine added removed path)) =
      added.text.toList.map .char :: removed.text.toList.map .char ::
        fieldsBy isBlankSymbol (symbols path) := by
  have hsymbols : symbols (countingLine added removed path) = added.text.toList.map .char ++
      .char '\t' :: (removed.text.toList.map .char ++ .char '\t' :: symbols path) := by
    rw [countingLine, encodeString, symbols_encode_append]
    simp
  rw [hsymbols, fieldsBy_column, fieldsBy_column]

/-! ### Reading back -/

/-- A line gives its counts, and of the path the fields with a space between neighbours. -/
theorem readLine?_countingLine {added removed : Column} (hadded : added.Fits)
    (hremoved : removed.Fits) (path : Bytes) {fields : List Bytes} (h : HasFields path fields) :
    readLine? (countingLine added removed path) =
      if fields = [] then none else some (spaced fields, ⟨added.count, removed.count⟩) := by
  obtain ⟨parts, hparts, rfl⟩ := h
  have hfields := fieldsBy_countingLine added removed path
  rw [hparts.fieldsBy_eq] at hfields
  by_cases hne : parts = []
  · have hnone : numstat? (symbols (countingLine added removed path)) = none := by
      rw [numstat?_eq_none_iff, hfields, hne]
      simp
    rw [readLine?, hnone, hne]
    rfl
  · have hshown : ∀ column : Column,
        (column.text.toList.map Symbol.char).map Symbol.toChar = column.text.toList := by
      intro column
      simp [Function.comp_def, Symbol.toChar]
    rw [readLine?, numstat?_of_fields hfields hne, hshown, hshown, Column.leadingCount_text hadded,
      Column.leadingCount_text hremoved, if_neg (mt List.map_eq_nil_iff.mp hne),
      ← unread_intercalate]
    rfl

/-- Put together from its fields a path is the same just if its white space is single spaces between
other characters. -/
theorem spaced_eq_iff {path : Bytes} {fields : List Bytes} (h : HasFields path fields) :
    path = spaced fields ↔ IsSpaced isBlankSymbol (.char ' ') (symbols path) := by
  obtain ⟨parts, hparts, rfl⟩ := h
  have hrereads : Rereads ([.char ' '].intercalate parts) :=
    rereads_intercalate fun part hpart => (rereads_symbols path).of_part (hparts.inside part hpart)
  have hspace : isBlankSymbol (.char ' ') = true := rfl
  rw [← intercalate_fieldsBy_eq_iff hspace, hparts.fieldsBy_eq, ← unread_intercalate, eq_comm]
  exact hrereads.unread_eq_iff

/-- A line of two counts and a path is read back as these just if the path is not empty and is its
own fields with a space between neighbours, that is, if it has no white space at its ends and single
spaces only inside. Any other path gives its fields with single spaces, or nothing without a field.
A line gives nothing just if it has fewer than three fields. -/
theorem counting_line_read_back {added removed : Column} (hadded : added.Fits)
    (hremoved : removed.Fits) (path : Bytes) :
    (∃ fields, HasFields path fields ∧
      (readLine? (countingLine added removed path) = some (path, ⟨added.count, removed.count⟩) ↔
        path ≠ [] ∧ path = spaced fields) ∧
      (path = spaced fields ↔ IsSpaced isBlankSymbol (.char ' ') (symbols path)) ∧
      readLine? (countingLine added removed path) =
        if fields = [] then none else some (spaced fields, ⟨added.count, removed.count⟩)) ∧
    ∀ line, readLine? line = none ↔ ∃ fields, HasFields line fields ∧ fields.length < 3 := by
  refine ⟨?_, ?_⟩
  · obtain ⟨parts, hparts⟩ := exists_fields isBlankSymbol (symbols path)
    have hfields : HasFields path (parts.map unread) := ⟨parts, hparts, rfl⟩
    have hread := readLine?_countingLine hadded hremoved path hfields
    refine ⟨_, hfields, ?_, spaced_eq_iff hfields, hread⟩
    rw [hread]
    by_cases hne : parts = []
    · subst hne
      simp [spaced]
    · have hpath : path ≠ [] := by
        rintro rfl
        exact hne hparts.fieldsBy_eq.symm
      rw [if_neg (mt List.map_eq_nil_iff.mp hne)]
      simp [hpath, eq_comm]
  · intro line
    rw [readLine?, Option.map_eq_none_iff, numstat?_eq_none_iff]
    constructor
    · exact fun hfew => ⟨_, ⟨_, fieldsBy_eq_iff.mp rfl, rfl⟩, by rwa [List.length_map]⟩
    · rintro ⟨-, ⟨parts, hparts, rfl⟩, hfew⟩
      rwa [hparts.fieldsBy_eq, ← List.length_map]

/-- A path with a space and a stray byte. -/
def strayPath : Bytes := encodeString "docs/my file" ++ [0xFF]

theorem strayPath_read_back :
    (Column.lines 10).Fits ∧ Column.binary.Fits ∧
    readLine? (countingLine (.lines 10) .binary strayPath) = some (strayPath, ⟨10, 0⟩) := by
  have hfits : (Column.lines 10).Fits := by
    show ((10 : Nat) : Int) ≤ int64Max
    decide
  have hbinary : Column.binary.Fits := trivial
  obtain ⟨⟨fields, -, hback, hspaced, -⟩, -⟩ := counting_line_read_back hfits hbinary strayPath
  refine ⟨hfits, hbinary, hback.mpr ⟨by decide, hspaced.mpr ?_⟩⟩
  exact ⟨by decide, by decide, by decide, by decide⟩

end InlineAudit.Git
