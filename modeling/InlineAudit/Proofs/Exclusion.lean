import InlineAudit.Proofs.Walk
import Mathlib.Data.List.DropRight
import Mathlib.Data.List.Flatten

/-!
Excluding more. The last line that matches a path decides, so a line may take back what lines before
it ignore; but only a line that starts with an exclamation mark does. Behind other lines a path that
was ignored stays ignored, and the walk, which enters no directory that is ignored, comes to no file
that it did not come to before. All this goes for any way to read and to match lines of which no
more is known than that (`Library`).
-/

namespace InlineAudit

open Files Text

namespace Ignore

/-- A line that takes back what lines before it ignore: without the spaces around it, it starts with
an exclamation mark. -/
def IsNegation (line : Raw) : Prop := (trimBy (· = ' ') line.shown.toList).head? = some '!'

instance (line : Raw) : Decidable (IsNegation line) := inferInstanceAs (Decidable (_ = _))

/-! ### Lines without a negation sign -/

/-- A text that is trimmed begins where its front is trimmed to. -/
theorem head?_trimBy {α : Type} (p : α → Bool) (text : List α) :
    (trimBy p text).head? = (text.dropWhile p).head? := by
  rw [trimBy]
  cases hrest : text.dropWhile p with
  | nil => rfl
  | cons a rest =>
    have ha : p a = false := by
      have hhead := List.head_dropWhile_not p (l := text) (by simp [hrest])
      simpa [hrest] using hhead
    have hend : ((a :: rest).reverse.dropWhile p).getLast? = some a := by
      rw [List.reverse_cons, List.dropWhile_append]
      split
      · rw [List.dropWhile_cons_of_neg (by simp [ha])]
        rfl
      · simp
    rw [List.head?_reverse, hend]
    rfl

/-- What a text begins with is not changed by what stands behind it. -/
theorem head?_dropWhile_of_prefix {α : Type} {p : α → Bool} {front text : List α}
    (h : front <+: text) {a : α} (ha : (front.dropWhile p).head? = some a) :
    (text.dropWhile p).head? = some a := by
  obtain ⟨rest, rfl⟩ := h
  have hne : (front.dropWhile p).isEmpty = false := by
    cases hfront : front.dropWhile p with
    | nil => simp [hfront] at ha
    | cons b more => rfl
  rw [List.dropWhile_append, hne, if_neg Bool.false_ne_true, List.head?_append, ha]
  rfl

/-- A pattern is negated only by a sign in its line, which returns at the end do not hide. -/
theorem head?_of_negated {line : List Char} {pattern : Pattern}
    (h : pattern? line = some pattern) (hnegated : pattern.negated = true) :
    (trimBy (· = ' ') line).head? = some '!' := by
  have hprefix : (line.reverse.dropWhile fun c => c = '\r').reverse <+: line :=
    List.rdropWhile_prefix _ line
  simp only [pattern?] at h
  generalize (line.reverse.dropWhile fun c => c = '\r').reverse = body at h hprefix
  split at h
  · cases h
  · split at h
    · cases h
    · rename_i rest hbody
      have hhead : (trimBy (· = ' ') body).head? = some '!' := by rw [hbody]; rfl
      rw [head?_trimBy] at hhead ⊢
      exact head?_dropWhile_of_prefix hprefix hhead
    · obtain ⟨expr, -, rfl⟩ := Option.map_eq_some_iff.mp h
      cases hnegated

/-- A way to read ignore lines and to match them with paths, under which only negations are negated.
A line may be dropped. -/
structure Library where
  Pattern : Type
  /-- The lines of an ignore file. -/
  fileLines : Bytes → List Raw
  read : Raw → Option Pattern
  found : Pattern → String → Bool
  negated : Pattern → Bool
  plain : ∀ {line pattern}, read line = some pattern → ¬IsNegation line → negated pattern = false

namespace Library

variable (library : Library)

/-- A matching plain line sets the answer, a matching negated line clears it. -/
def ignores (patterns : List library.Pattern) (path : String) : Bool :=
  patterns.foldl (fun ignored pattern =>
    if library.found pattern path then !library.negated pattern else ignored) false

/-- The lines in force for a tree, if there are any: those of its ignore file, if that can be read,
and then the extra ones. -/
def lines? (system : System) (root : String) (extra : List Raw) : Option (List Raw) :=
  match system.read (Path.joinTo root ".gitignore") with
  | .ok content => some (library.fileLines content ++ extra)
  | .error _ => if extra.isEmpty then none else some extra

/-- Whether a path is ignored in a tree. -/
def isIgnored (system : System) (root : String) (extra : List Raw) (path : String) : Bool :=
  ((library.lines? system root extra).map fun lines =>
    library.ignores (lines.filterMap library.read) path).getD false

/-- The source files below a path. -/
def sourceFiles (system : System) (root : String) (extra : List Raw) :
    Except PathError (List SourceFile) :=
  match system.lstat root with
  | .error cause => .error cause
  | .ok node => sourcesOf (library.isIgnored system root extra) root node

/-! ### What is ignored -/

theorem ignores_concat (patterns : List library.Pattern) (last : library.Pattern) (path : String) :
    library.ignores (patterns ++ [last]) path =
      if library.found last path then !library.negated last
      else library.ignores patterns path := by
  rw [ignores, List.foldl_append]
  rfl

variable {library}

/-- Patterns that are not negated take nothing back. -/
theorem ignores_append {patterns more : List library.Pattern}
    (h : ∀ pattern ∈ more, library.negated pattern = false) {path : String}
    (hpath : library.ignores patterns path = true) :
    library.ignores (patterns ++ more) path = true := by
  induction more using List.reverseRecOn with
  | nil => rwa [List.append_nil]
  | append_singleton more last ih =>
    rw [← List.append_assoc, ignores_concat]
    split
    · rw [h last (by simp)]
      rfl
    · exact ih fun pattern hpattern => h pattern (List.mem_append_left _ hpattern)

/-- Behind further lines, whatever the ignore file holds and whether or not it can be read, a path
that was ignored is ignored. -/
theorem isIgnored_append {system : System} {root : String} {extra more : List Raw}
    (hmore : ∀ line ∈ more, ¬IsNegation line) {path : String}
    (h : library.isIgnored system root extra path = true) :
    library.isIgnored system root (extra ++ more) path = true := by
  have hplain : ∀ pattern ∈ more.filterMap library.read, library.negated pattern = false := by
    intro pattern hpattern
    obtain ⟨line, hline, hread⟩ := List.mem_filterMap.mp hpattern
    exact library.plain hread (hmore line hline)
  have hlines (lines : List Raw)
      (hlines : library.ignores (lines.filterMap library.read) path = true) :
      library.ignores ((lines ++ more).filterMap library.read) path = true := by
    rw [List.filterMap_append]
    exact ignores_append hplain hlines
  rw [isIgnored, lines?] at h ⊢
  cases hread : system.read (Path.joinTo root ".gitignore") with
  | ok content =>
    rw [hread] at h
    simp only [← List.append_assoc]
    exact hlines _ h
  | error cause =>
    rw [hread] at h
    cases extra with
    | nil => simp at h
    | cons first rest => exact hlines _ h

end Library

/-- The lines of this program. -/
def library : Library where
  Pattern := Pattern
  fileLines content := (splitAt (.char '\n') (symbols content)).map .mk
  read line := line.chars?.bind pattern?
  found pattern := pattern.expr.found
  negated pattern := pattern.negated
  plain {line pattern} hread hline := by
    obtain ⟨chars, hchars, hread⟩ := Option.bind_eq_some_iff.mp hread
    have hshown : chars = line.shown.toList := by
      rw [Raw.chars?] at hchars
      split at hchars
      · cases hchars
      · rw [← Option.some.inj hchars, Raw.shown, String.toList_ofList]
    subst hshown
    exact Bool.eq_false_iff.mpr fun hnegated => hline (head?_of_negated hread hnegated)

theorem library_isIgnored (system : System) (root : String) (extra : List Raw) :
    library.isIgnored system root extra =
      InlineAudit.isIgnored (ignorePatterns? system root extra) := by
  funext path
  rw [Library.isIgnored, Library.lines?, InlineAudit.isIgnored, ignorePatterns?]
  cases system.read (Path.joinTo root ".gitignore") with
  | ok content => simp only [Option.map_some, List.filterMap_append]; rfl
  | error cause => cases extra <;> rfl

theorem library_sourceFiles (system : System) (root : String) (extra : List Raw) :
    library.sourceFiles system root extra =
      InlineAudit.sourceFiles system (ignorePatterns? system root extra) root := by
  rw [Library.sourceFiles, library_isIgnored]
  rfl

end Ignore

/-! ### The walk -/

section

variable {ignored ignored' : String → Bool}

/-- Where more is ignored, a walk that succeeds at and below a node still does, and no further files
are chosen. -/
theorem sourcesAt_sublist (h : ∀ path, ignored path = true → ignored' path = true)
    {root relative : String} {node : Node} {files : List SourceFile}
    (hfiles : sourcesAt ignored root relative node = .ok files) :
    ∃ fewer, sourcesAt ignored' root relative node = .ok fewer ∧ fewer.Sublist files := by
  have hclosed (name path : String) : (skippedNames.contains name || ignored path) = true →
      (skippedNames.contains name || ignored' path) = true := by
    rw [Bool.or_eq_true, Bool.or_eq_true]
    exact Or.imp_right (h path)
  induction node using Node.inductionOn generalizing relative files with
  | file name content access =>
    refine ⟨_, Walk.sourcesAt_file_eq_ok_iff.mpr rfl, ?_⟩
    rw [Walk.sourcesAt_file_eq_ok_iff.mp hfiles]
    split
    · exact List.nil_sublist _
    · rename_i hopen
      rw [if_neg fun hpath => hopen (hclosed name relative hpath)]
  | link name target => exact ⟨files, hfiles, List.Sublist.refl _⟩
  | dir name entries access ih =>
    obtain ⟨hread, hfiles⟩ := Walk.sourcesAt_dir_eq_ok_iff.mp hfiles
    by_cases hpath : (skippedNames.contains name || ignored' relative) = true
    · refine ⟨[], Walk.sourcesAt_dir_eq_ok_iff.mpr ⟨hread, ?_⟩, List.nil_sublist _⟩
      rw [if_pos hpath]
    · rw [if_neg fun hopen => hpath (hclosed name relative hopen)] at hfiles
      obtain ⟨lists, hlists, rfl⟩ := hfiles
      have hall : ∀ child ∈ entries, ∃ fewer,
          sourcesAt ignored' root (relative ++ "/" ++ child.name) child = .ok fewer ∧
            fewer.Sublist (lists child) :=
        fun child hchild => ih child hchild (hlists child hchild).2
      choose! fewer hfewer using hall
      refine ⟨(Walk.byName entries).flatMap fewer,
        Walk.sourcesAt_dir_eq_ok_iff.mpr ⟨hread, ?_⟩, ?_⟩
      · rw [if_neg hpath]
        exact ⟨fewer, fun child hchild => ⟨(hlists child hchild).1, (hfewer child hchild).1⟩, rfl⟩
      · exact List.Sublist.flatMap_right _ fun child hchild =>
          (hfewer child (Walk.mem_byName.mp hchild)).2

/-- A root that is a file is not tested for being ignored, and a directory only below itself. -/
theorem sourcesOf_sublist (h : ∀ path, ignored path = true → ignored' path = true)
    {root : String} {node : Node} {files : List SourceFile}
    (hfiles : sourcesOf ignored root node = .ok files) :
    ∃ fewer, sourcesOf ignored' root node = .ok fewer ∧ fewer.Sublist files := by
  cases node with
  | file name content access => exact ⟨files, hfiles, List.Sublist.refl _⟩
  | link name target => exact ⟨files, hfiles, List.Sublist.refl _⟩
  | dir name entries access =>
    obtain ⟨hread, lists, hlists, rfl⟩ := Walk.sourcesOf_dir_eq_ok_iff.mp hfiles
    have hall : ∀ child ∈ entries, ∃ fewer,
        sourcesAt ignored' root ("" ++ child.name) child = .ok fewer ∧
          fewer.Sublist (lists child) :=
      fun child hchild => sourcesAt_sublist h (hlists child hchild).2
    choose! fewer hfewer using hall
    refine ⟨(Walk.byName entries).flatMap fewer, Walk.sourcesOf_dir_eq_ok_iff.mpr ⟨hread, fewer,
      fun child hchild => ⟨(hlists child hchild).1, (hfewer child hchild).1⟩, rfl⟩, ?_⟩
    exact List.Sublist.flatMap_right _ fun child hchild =>
      (hfewer child (Walk.mem_byName.mp hchild)).2

end

/-- What is ignored and what a walk of a system gives, before further lines and behind them. -/
structure ExcludesMore (system : System) (root : String) (ignored ignored' : String → Bool)
    (walk walk' : Except PathError (List SourceFile)) : Prop where
  stays_ignored : ∀ path, ignored path = true → ignored' path = true
  sublist : ∀ files, walk = .ok files → ∃ fewer, walk' = .ok fewer ∧ fewer.Sublist files
  /-- Both walks fail alike without a root. -/
  without_root : ∀ cause, system.lstat root = .error cause →
    walk = .error cause ∧ walk' = .error cause
  /-- A tree whose directories can be read is walked to its end. -/
  succeeds : ∀ node, system.lstat root = .ok node → node.Readable → ∃ files, walk = .ok files

theorem Ignore.Library.excludesMore (library : Ignore.Library) (system : System) (root : String)
    (extra : List Raw) {more : List Raw} (hmore : ∀ line ∈ more, ¬Ignore.IsNegation line) :
    ExcludesMore system root (library.isIgnored system root extra)
      (library.isIgnored system root (extra ++ more)) (library.sourceFiles system root extra)
      (library.sourceFiles system root (extra ++ more)) where
  stays_ignored _ := isIgnored_append hmore
  sublist files hfiles := by
    rw [sourceFiles] at hfiles ⊢
    cases hroot : system.lstat root with
    | error cause =>
      rw [hroot] at hfiles
      cases hfiles
    | ok node =>
      rw [hroot] at hfiles
      exact sourcesOf_sublist (fun _ => isIgnored_append hmore) hfiles
  without_root cause hroot := by
    rw [sourceFiles, sourceFiles, hroot]
    exact ⟨rfl, rfl⟩
  succeeds node hroot hreadable := by
    rw [sourceFiles, hroot]
    exact Walk.sourcesOf_of_readable hreadable

/-- Excluding more never scans more. Lines that are no negations, put behind any others, ignore
what was ignored, whatever the ignore file of the root holds and also if there is none. So in every
file system the walk leaves out some of the files it chose and changes neither the order nor the
records of the rest. This goes for every way to read lines under which only negations are negated,
and so for the lines of this program. -/
theorem excluding_more_scans_less (system : System) (root : String) (extra : List Raw)
    {more : List Raw} (hmore : ∀ line ∈ more, ¬Ignore.IsNegation line) :
    (∀ library : Ignore.Library,
      ExcludesMore system root (library.isIgnored system root extra)
        (library.isIgnored system root (extra ++ more)) (library.sourceFiles system root extra)
        (library.sourceFiles system root (extra ++ more))) ∧
    ExcludesMore system root (isIgnored (ignorePatterns? system root extra))
      (isIgnored (ignorePatterns? system root (extra ++ more)))
      (sourceFiles system (ignorePatterns? system root extra) root)
      (sourceFiles system (ignorePatterns? system root (extra ++ more)) root) := by
  have hall (library : Ignore.Library) := library.excludesMore system root extra hmore
  refine ⟨hall, ?_⟩
  rw [← Ignore.library_isIgnored, ← Ignore.library_isIgnored, ← Ignore.library_sourceFiles,
    ← Ignore.library_sourceFiles]
  exact hall Ignore.library

/-- A line that takes something back, and two that do not: the exclamation mark of the last one
stands behind a name. -/
def takingBack : List Raw := [Raw.ofString " !a.java"]

def furtherLines : List Raw := [Raw.ofString " a/ ", Raw.ofString "main.go!"]

theorem furtherLines_exclude :
    (∀ line ∈ furtherLines, ¬Ignore.IsNegation line) ∧
    (∃ line ∈ takingBack, Ignore.IsNegation line) ∧
    ∃ files fewer,
      sourceFiles sampleSystem (ignorePatterns? sampleSystem "/bin" takingBack) "/bin" = .ok files ∧
      sourceFiles sampleSystem (ignorePatterns? sampleSystem "/bin" (takingBack ++ furtherLines))
        "/bin" = .ok fewer ∧
      fewer.Sublist files := by
  have hmore : ∀ line ∈ furtherLines, ¬Ignore.IsNegation line := by decide +kernel
  obtain ⟨-, hexcludes⟩ := excluding_more_scans_less sampleSystem "/bin" takingBack hmore
  obtain ⟨files, hfiles⟩ := hexcludes.succeeds _ sampleSystem_bin sampleEntries_readable
  obtain ⟨fewer, hfewer, hsublist⟩ := hexcludes.sublist files hfiles
  exact ⟨hmore, by decide +kernel, files, fewer, hfiles, hfewer, hsublist⟩

end InlineAudit
