import InlineAudit.Git.Diff
import InlineAudit.Proofs.Lists
import InlineAudit.Proofs.Text.Spacing

/-!
What a difference says about the outputs that it was read from, and about the files that it keeps.
The counts are a map, filled line by line, in which the last line for a path holds; white space at
the ends of an output takes no part in them, since a line counts by its fields. Paths are told apart
by their bytes. A path has changed if it has a count or is not tracked. The filter keeps the changed
files in their order and writes to each what the difference says about its path, so a second time
there is nothing left to do.
-/

namespace InlineAudit.Git

open Text

/-! ### Pairs by key, where the last one holds -/

section LastOf

variable {β : Type}

/-- Pairs by key: of several pairs with the same key the last one. -/
def lastOf (entries : List (Raw × β)) : List (Raw × β) :=
  entries.foldl (fun pairs entry => insertLast entry.1 entry.2 pairs) []

@[simp] theorem lastOf_nil : lastOf ([] : List (Raw × β)) = [] := rfl

theorem lastOf_concat (entries : List (Raw × β)) (entry : Raw × β) :
    lastOf (entries ++ [entry]) = insertLast entry.1 entry.2 (lastOf entries) := by
  simp [lastOf]

theorem mem_keys_insertLast {key other : Raw} {value : β} {pairs : List (Raw × β)} :
    other ∈ (insertLast key value pairs).map (·.1) ↔ other = key ∨ other ∈ pairs.map (·.1) := by
  by_cases h : other = key <;> simp [insertLast, h]

theorem nodup_keys_insertLast {key : Raw} {value : β} {pairs : List (Raw × β)}
    (h : (pairs.map (·.1)).Nodup) : ((insertLast key value pairs).map (·.1)).Nodup := by
  rw [insertLast, List.map_append, List.nodup_append]
  refine ⟨h.sublist (List.filter_sublist.map _), by simp, ?_⟩
  intro other hother other' hother'
  obtain ⟨pair, hpair, rfl⟩ := List.mem_map.mp hother
  obtain rfl : other' = key := by simpa using hother'
  simpa using (List.mem_filter.mp hpair).2

theorem mem_keys_iff {key : Raw} {pairs : List (Raw × β)} :
    key ∈ pairs.map (·.1) ↔ ∃ value, pairs.lookup key = some value := by
  induction pairs with
  | nil => simp
  | cons pair pairs ih =>
    obtain ⟨key', value⟩ := pair
    rw [List.map_cons, List.mem_cons, ih]
    by_cases h : key = key' <;> simp [lookup_cons_eq, h]

theorem lookup_filter_ne (key other : Raw) (pairs : List (Raw × β)) :
    (pairs.filter (·.1 ≠ key)).lookup other =
      if other = key then none else pairs.lookup other := by
  induction pairs with
  | nil => simp
  | cons pair pairs ih =>
    obtain ⟨key', value⟩ := pair
    by_cases hkey : key' = key
    · rw [List.filter_cons_of_neg (by simpa using hkey), ih, lookup_cons_eq, hkey]
      split <;> rfl
    · rw [List.filter_cons_of_pos (by simpa using hkey), lookup_cons_eq, lookup_cons_eq, ih]
      by_cases h : other = key' <;> simp [h, hkey]

theorem lookup_insertLast (key other : Raw) (value : β) (pairs : List (Raw × β)) :
    (insertLast key value pairs).lookup other =
      if other = key then some value else pairs.lookup other := by
  rw [insertLast, List.lookup_append, lookup_filter_ne, lookup_cons_eq, List.lookup_nil]
  by_cases h : other = key <;> simp [h]

theorem nodup_keys_lastOf (entries : List (Raw × β)) : ((lastOf entries).map (·.1)).Nodup := by
  induction entries using List.reverseRecOn with
  | nil => simp
  | append_singleton entries entry ih =>
    rw [lastOf_concat]
    exact nodup_keys_insertLast ih

theorem mem_keys_lastOf {entries : List (Raw × β)} {key : Raw} :
    key ∈ (lastOf entries).map (·.1) ↔ key ∈ entries.map (·.1) := by
  induction entries using List.reverseRecOn with
  | nil => simp
  | append_singleton entries entry ih =>
    rw [lastOf_concat, mem_keys_insertLast, ih]
    simp [or_comm]

/-- The value of a key is that of the last pair with the key. -/
theorem lookup_lastOf (entries : List (Raw × β)) (key : Raw) :
    (lastOf entries).lookup key = entries.reverse.lookup key := by
  induction entries using List.reverseRecOn with
  | nil => rfl
  | append_singleton entries entry ih =>
    obtain ⟨key', value⟩ := entry
    rw [lastOf_concat, lookup_insertLast, ih, List.reverse_concat, lookup_cons_eq]

/-- Pairs with distinct keys are left as they are. -/
theorem lastOf_of_nodup {entries : List (Raw × β)} (h : (entries.map (·.1)).Nodup) :
    lastOf entries = entries := by
  induction entries using List.reverseRecOn with
  | nil => rfl
  | append_singleton entries entry ih =>
    rw [List.map_append, List.map_singleton, List.nodup_append] at h
    have hkept : entries.filter (·.1 ≠ entry.1) = entries := by
      refine List.filter_eq_self.mpr fun other hother => ?_
      simpa using h.2.2 _ (List.mem_map_of_mem hother) _ List.mem_cons_self
    rw [lastOf_concat, ih h.1, insertLast, hkept]

end LastOf

/-! ### Counting lines -/

/-- A line counts changes for a path: behind the fields with the two counts stand those of the
path, which are put together with single spaces. -/
def Counts (line : List Symbol) (path : Raw) (count : ChangeCount) : Prop :=
  ∃ added removed names, names ≠ [] ∧ Fields isBlankSymbol line (added :: removed :: names) ∧
    path = ⟨[.char ' '].intercalate names⟩ ∧
    count = ⟨leadingCount (added.map Symbol.toChar), leadingCount (removed.map Symbol.toChar)⟩

/-- The path and the counts in the fields of a line. -/
def countedFields? : List (List Symbol) → Option (Raw × ChangeCount)
  | added :: removed :: first :: more =>
    some (⟨[.char ' '].intercalate (first :: more)⟩,
      ⟨leadingCount (added.map Symbol.toChar), leadingCount (removed.map Symbol.toChar)⟩)
  | _ => none

def counted? (line : List Symbol) : Option (Raw × ChangeCount) :=
  countedFields? (fieldsBy isBlankSymbol line)

theorem counted?_eq_some_iff {line : List Symbol} {path : Raw} {count : ChangeCount} :
    counted? line = some (path, count) ↔ Counts line path count := by
  rw [counted?]
  constructor
  · intro h
    cases hfields : fieldsBy isBlankSymbol line with
    | nil => simp [hfields, countedFields?] at h
    | cons added fields =>
      cases fields with
      | nil => simp [hfields, countedFields?] at h
      | cons removed names =>
        cases names with
        | nil => simp [hfields, countedFields?] at h
        | cons first more =>
          rw [hfields] at h
          obtain ⟨rfl, rfl⟩ := Prod.mk.inj (Option.some.inj h)
          exact ⟨added, removed, first :: more, by simp, fieldsBy_eq_iff.mp hfields, rfl, rfl⟩
  · rintro ⟨added, removed, names, hne, hfields, rfl, rfl⟩
    obtain ⟨first, more, rfl⟩ := List.exists_cons_of_ne_nil hne
    rw [hfields.fieldsBy_eq]
    rfl

/-- The path of a line is not empty. -/
theorem Counts.path_ne {line : List Symbol} {path : Raw} {count : ChangeCount}
    (h : Counts line path count) : path ≠ ⟨[]⟩ := by
  obtain ⟨added, removed, names, hne, hfields, rfl, -⟩ := h
  obtain ⟨first, more, rfl⟩ := List.exists_cons_of_ne_nil hne
  have hfirst : first ≠ [] := (hfields.of_mem first (by simp)).1
  intro hempty
  have htext := congrArg Raw.symbols hempty
  cases more with
  | nil => exact hfirst (by simpa using htext)
  | cons second more => simp [List.intercalate_cons_cons] at htext

/-- The path of a line that was read from bytes is read again from its own bytes. -/
theorem Counts.rereads {line : List Symbol} {path : Raw} {count : ChangeCount}
    (h : Counts line path count) (hline : Rereads line) : Rereads path.symbols := by
  obtain ⟨added, removed, names, -, hfields, rfl, -⟩ := h
  refine rereads_intercalate fun name hname => hline.of_part (hfields.inside name ?_)
  exact List.mem_cons_of_mem _ (List.mem_cons_of_mem _ hname)

theorem foldl_path (first : List Symbol) (more : List (List Symbol)) :
    more.foldl (fun path field => path ++ .char ' ' :: field) first =
      [.char ' '].intercalate (first :: more) := by
  induction more generalizing first with
  | nil => simp
  | cons second more ih =>
    rw [List.foldl_cons, ih]
    cases more <;> simp [List.intercalate_cons_cons]

/-- What a line gives, as a pair for the map of counts. -/
theorem numstat?_eq (line : List Symbol) :
    (numstat? line).map (fun counted => (Raw.mk counted.1, counted.2)) = counted? line := by
  rw [numstat?, counted?]
  split
  · rename_i added removed first more hfields
    simp only [hfields, Option.map_some, foldl_path, countedFields?]
  · rename_i hfew
    cases hfields : fieldsBy isBlankSymbol line with
    | nil => rfl
    | cons added fields =>
      cases fields with
      | nil => rfl
      | cons removed names =>
        cases names with
        | nil => rfl
        | cons first more => exact absurd hfields (hfew added removed first more)

/-! ### Outputs -/

/-- The lines of an output, the white space at its ends included. -/
def allLines (output : Bytes) : List (List Symbol) := splitAt (.char '\n') (symbols output)

theorem rereads_of_mem_allLines {output : Bytes} {line : List Symbol} (h : line ∈ allLines output) :
    Rereads line :=
  (rereads_symbols output).of_part (infix_of_mem_splitAt h)

theorem rereads_of_mem_outputLines {output : Bytes} {line : List Symbol}
    (h : line ∈ outputLines output) : Rereads line :=
  (rereads_symbols output).of_part ((infix_of_mem_splitAt h).trans (trimBy_part _ _))

/-- The counts are those of all lines; white space at the ends of an output plays no part. -/
theorem readCounts_eq (output : Bytes) :
    readCounts output = lastOf ((allLines output).filterMap counted?) := by
  calc
    readCounts output = lastOf ((outputLines output).filterMap fun line =>
        (numstat? line).map fun counted => (Raw.mk counted.1, counted.2)) := by
      rw [readCounts, lastOf, List.foldl_filterMap]
      congr 1
      funext counts line
      cases numstat? line <;> rfl
    _ = lastOf ((outputLines output).filterMap counted?) := by
      simp only [numstat?_eq]
    _ = lastOf ((allLines output).filterMap counted?) :=
      congrArg lastOf (filterMap_splitAt_trimBy (f := countedFields?) rfl _)

theorem mem_readPaths_iff {output : Bytes} {path : Raw} :
    path ∈ readPaths output ↔ ∃ line ∈ outputLines output, line ≠ [] ∧ path = ⟨line⟩ := by
  simp only [readPaths, List.mem_eraseDups, List.mem_map, List.mem_filter]
  constructor
  · rintro ⟨line, ⟨hline, hne⟩, rfl⟩
    exact ⟨line, hline, by simpa using hne, rfl⟩
  · rintro ⟨line, hline, hne, rfl⟩
    exact ⟨line, ⟨hline, by simpa using hne⟩, rfl⟩

/-! ### The difference -/

@[simp] theorem Diff.ofOutputs_counts (counting listing : Bytes) :
    (ofOutputs counting listing).counts = readCounts counting := rfl

@[simp] theorem Diff.ofOutputs_untracked (counting listing : Bytes) :
    (ofOutputs counting listing).untracked = readPaths listing := rfl

/-- A line is the last one that counts changes for a path, and it counts these. -/
def LastCounts (output : List (List Symbol)) (path : Raw) (count : ChangeCount) : Prop :=
  ∃ before line after, output = before ++ line :: after ∧ Counts line path count ∧
    ∀ later ∈ after, ∀ count', ¬Counts later path count'

theorem lookup_lastOf_eq_some_iff {output : List (List Symbol)} {path : Raw}
    {count : ChangeCount} :
    (lastOf (output.filterMap counted?)).lookup path = some count ↔
      LastCounts output path count := by
  rw [lookup_lastOf, List.lookup_eq_some_iff]
  constructor
  · rintro ⟨later, earlier, hsplit, hlater⟩
    have hentries : output.filterMap counted? =
        earlier.reverse ++ (path, count) :: later.reverse := by
      rw [← List.reverse_reverse (output.filterMap counted?), hsplit]
      simp
    obtain ⟨before, rest, rfl, -, hrest⟩ := List.filterMap_eq_append_iff.mp hentries
    obtain ⟨skipped, line, after, rfl, -, hline, hafter⟩ := List.filterMap_eq_cons_iff.mp hrest
    refine ⟨before ++ skipped, line, after, by simp, counted?_eq_some_iff.mp hline, ?_⟩
    intro other hother count' hcounts
    have hmem : (path, count') ∈ after.filterMap counted? :=
      List.mem_filterMap.mpr ⟨other, hother, counted?_eq_some_iff.mpr hcounts⟩
    rw [hafter, List.mem_reverse] at hmem
    simpa using hlater _ hmem
  · rintro ⟨before, line, after, rfl, hline, hafter⟩
    refine ⟨(after.filterMap counted?).reverse, (before.filterMap counted?).reverse, ?_, ?_⟩
    · rw [List.filterMap_append, List.filterMap_cons_some (counted?_eq_some_iff.mpr hline)]
      simp
    · rintro ⟨path', count'⟩ hpair
      obtain ⟨later, hlater, hread⟩ := List.mem_filterMap.mp (List.mem_reverse.mp hpair)
      have hcounts := counted?_eq_some_iff.mp hread
      refine bne_iff_ne.mpr ?_
      rintro rfl
      exact hafter later hlater _ hcounts

/-- What a difference says about the two outputs that it was read from. -/
structure Describes (counting listing : Bytes) (diff : Diff) : Prop where
  /-- The changed paths are those with a count and those that are not tracked, each once. -/
  changed_iff : ∀ path, path ∈ diff.changed ↔
    path ∈ diff.counts.map (·.1) ∨ path ∈ diff.untracked
  changed_nodup : diff.changed.Nodup
  /-- The counts are a map. -/
  counts_nodup : (diff.counts.map (·.1)).Nodup
  /-- A path has the counts of the last line that has three fields at least and names it. -/
  counts_iff : ∀ path count, diff.counts.lookup path = some count ↔
    LastCounts (allLines counting) path count
  /-- Every line that is not empty names a path that is not tracked. -/
  untracked_iff : ∀ path, path ∈ diff.untracked ↔
    ∃ line ∈ outputLines listing, line ≠ [] ∧ path = ⟨line⟩
  untracked_nodup : diff.untracked.Nodup
  /-- So the empty path never changes. -/
  no_empty : ⟨[]⟩ ∉ diff.changed
  /-- A path stands for the bytes that git prints for it, and no other path stands for these. -/
  keyed : ∀ path ∈ diff.changed, path = .ofBytes (unread path.symbols)

theorem ofOutputs_describes (counting listing : Bytes) :
    Describes counting listing (.ofOutputs counting listing) := by
  have hchanged : ∀ path, path ∈ (Diff.ofOutputs counting listing).changed ↔
      path ∈ (readCounts counting).map (·.1) ∨ path ∈ readPaths listing := by
    simp [Diff.ofOutputs]
  have hcounts : ∀ path count, (readCounts counting).lookup path = some count ↔
      LastCounts (allLines counting) path count := by
    intro path count
    rw [readCounts_eq, lookup_lastOf_eq_some_iff]
  refine ⟨hchanged, nodup_eraseDups _, ?_, hcounts, fun path => mem_readPaths_iff,
    nodup_eraseDups _, ?_, ?_⟩
  · show ((readCounts counting).map (·.1)).Nodup
    rw [readCounts_eq]
    exact nodup_keys_lastOf _
  · rw [hchanged]
    rintro (hkey | hpath)
    · obtain ⟨count, hcount⟩ := mem_keys_iff.mp hkey
      obtain ⟨-, line, -, -, hline, -⟩ := (hcounts _ _).mp hcount
      exact hline.path_ne rfl
    · obtain ⟨line, -, hne, hline⟩ := mem_readPaths_iff.mp hpath
      exact hne (congrArg Raw.symbols hline.symm)
  · intro path hpath
    refine congrArg Raw.mk (Eq.symm ?_)
    rcases (hchanged path).mp hpath with hkey | hpath
    · obtain ⟨count, hcount⟩ := mem_keys_iff.mp hkey
      obtain ⟨before, line, after, hlines, hline, -⟩ := (hcounts _ _).mp hcount
      have hmem : line ∈ allLines counting := by simp [hlines]
      exact hline.rereads (rereads_of_mem_allLines hmem)
    · obtain ⟨line, hline, -, rfl⟩ := mem_readPaths_iff.mp hpath
      exact rereads_of_mem_outputLines hline

/-! ### The files that are kept -/

/-- A file with what a difference says about its path, and otherwise as it was. -/
structure Annotates (diff : Diff) (file kept : SourceFile) : Prop where
  path_eq : kept.path = file.path
  size_eq : kept.size = file.size
  ext_eq : kept.ext = file.ext
  language_eq : kept.language = file.language
  isNew_iff : kept.isNew = true ↔ Raw.ofString file.path ∈ diff.untracked
  counted : ∀ count, diff.counts.lookup (.ofString file.path) = some count →
    kept.added = count.added ∧ kept.removed = count.removed
  uncounted : Raw.ofString file.path ∉ diff.counts.map (·.1) →
    kept.added = file.added ∧ kept.removed = file.removed

/-- What a filter keeps of files: the changed ones in their order, annotated, and all of them when
it is applied once more. -/
structure KeepsChanged (diff : Diff) (files kept : List SourceFile) : Prop where
  each : List.Forall₂ (Annotates diff)
    (files.filter fun file => Raw.ofString file.path ∈ diff.changed) kept
  again : diff.keepChanged kept = kept

theorem Diff.annotate_path (diff : Diff) (file : SourceFile) :
    (diff.annotate file).path = file.path := by
  rw [annotate]
  split <;> rfl

/-- The paths of the files that are kept are the changed ones. -/
theorem Diff.keepChanged_paths (diff : Diff) (files : List SourceFile) :
    (diff.keepChanged files).map (·.path) =
      (files.map (·.path)).filter fun path => Raw.ofString path ∈ diff.changed := by
  have hpaths : (fun file => (diff.annotate file).path) = (·.path) := funext diff.annotate_path
  rw [keepChanged, List.map_map, Function.comp_def, hpaths, List.filter_map]
  congr 1
  simp [Function.comp_def]

theorem Diff.annotate_annotates (diff : Diff) (file : SourceFile) :
    Annotates diff file (diff.annotate file) := by
  rw [annotate]
  cases hcount : diff.counts.lookup (.ofString file.path) with
  | none =>
    refine ⟨rfl, rfl, rfl, rfl, by simp, ?_, fun _ => ⟨rfl, rfl⟩⟩
    intro count h
    rw [hcount] at h
    cases h
  | some count =>
    refine ⟨rfl, rfl, rfl, rfl, by simp, ?_, ?_⟩
    · intro other h
      rw [hcount] at h
      obtain rfl := Option.some.inj h
      exact ⟨rfl, rfl⟩
    · exact fun h => absurd (mem_keys_iff.mpr ⟨count, hcount⟩) h

theorem Diff.annotate_annotate (diff : Diff) (file : SourceFile) :
    diff.annotate (diff.annotate file) = diff.annotate file := by
  simp only [annotate]
  cases hcount : diff.counts.lookup (.ofString file.path) <;> simp only [hcount]

theorem Diff.keepChanged_keepsChanged (diff : Diff) (files : List SourceFile) :
    KeepsChanged diff files (diff.keepChanged files) where
  each := by
    have hfilter : files.filter (fun file => decide (Raw.ofString file.path ∈ diff.changed)) =
        files.filter fun file => diff.changed.contains (.ofString file.path) := by
      simp
    rw [keepChanged, hfilter, List.forall₂_map_right_iff, List.forall₂_same]
    exact fun file _ => diff.annotate_annotates file
  again := by
    have hkept : ∀ file ∈ diff.keepChanged files,
        diff.changed.contains (.ofString file.path) = true := by
      intro file hfile
      obtain ⟨source, hsource, rfl⟩ := List.mem_map.mp hfile
      rw [diff.annotate_path]
      exact (List.mem_filter.mp hsource).2
    rw [keepChanged, List.filter_eq_self.mpr hkept]
    simp only [keepChanged, List.map_map, Function.comp_def, diff.annotate_annotate]

/-! ### Both calls -/

/-- A difference is what the two outputs say: the last count of every path and the paths that are
not tracked, all of which have changed. The first call that fails is the last one that is made, and
there is no difference then. Of any files, a difference keeps those that have changed. -/
theorem diff_described (git : Executable) (ref : String) :
    (∀ counting listing, git (diffArguments ref) = .ok counting →
      git untrackedArguments = .ok listing →
        ∃ diff, diffAgainst git ref = (.ok diff, [diffArguments ref, untrackedArguments]) ∧
          Describes counting listing diff) ∧
    (∀ cause, git (diffArguments ref) = .error cause →
      diffAgainst git ref = (.error (.diff ref cause), [diffArguments ref])) ∧
    (∀ counting cause, git (diffArguments ref) = .ok counting →
      git untrackedArguments = .error cause →
        diffAgainst git ref =
          (.error (.untracked cause), [diffArguments ref, untrackedArguments])) ∧
    ∀ (diff : Diff) (files : List SourceFile),
      KeepsChanged diff files (diff.keepChanged files) := by
  refine ⟨?_, ?_, ?_, Diff.keepChanged_keepsChanged⟩
  · intro counting listing hcounting hlisting
    refine ⟨_, ?_, ofOutputs_describes counting listing⟩
    rw [diffAgainst, hcounting, hlisting]
  · intro cause hcause
    rw [diffAgainst, hcause]
  · intro counting cause hcounting hcause
    rw [diffAgainst, hcounting, hcause]

/-- Two counts for one path, a line that counts nothing, and a count for a stray byte. -/
def recounted : Bytes :=
  encodeString "1\t2\ta b.py\nnot counted\n-\t7\ta b.py\n3\t4\t" ++ [0xFF]

/-- Two paths, one of them that of the counts, with an empty line between them, and another stray
byte. -/
def relisted : Bytes := encodeString "new.py\n\na b.py\n" ++ [0xFE]

def recountedDiff : Diff :=
  { changed := ["a b.py", .ofBytes [0xFF], "new.py", .ofBytes [0xFE]]
    untracked := ["new.py", "a b.py", .ofBytes [0xFE]]
    counts := [("a b.py", ⟨0, 7⟩), (.ofBytes [0xFF], ⟨3, 4⟩)] }

/-- The second count for the path holds, and the stray bytes are two paths. -/
theorem recountedDiff_described :
    diffAgainst (fun arguments => .ok (if arguments = untrackedArguments then relisted
      else recounted)) "main" = (.ok recountedDiff, [diffArguments "main", untrackedArguments]) ∧
    Describes recounted relisted recountedDiff := by
  obtain ⟨diff, hdiff, hdescribes⟩ := (diff_described (fun arguments =>
    .ok (if arguments = untrackedArguments then relisted else recounted)) "main").1
      recounted relisted rfl rfl
  have hread : diffAgainst (fun arguments =>
      .ok (if arguments = untrackedArguments then relisted else recounted)) "main" =
        (.ok recountedDiff, [diffArguments "main", untrackedArguments]) := by
    decide +kernel
  obtain rfl : recountedDiff = diff := by
    rw [hread] at hdiff
    exact Except.ok.inj (Prod.mk.inj hdiff).1
  exact ⟨hread, hdescribes⟩

end InlineAudit.Git
