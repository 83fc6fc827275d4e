import InlineAudit.Proofs.Files.Place
import InlineAudit.Proofs.Files.System
import InlineAudit.Proofs.Text.Utf8
import InlineAudit.Walk

/-!
What the walk chooses. A regular file is chosen exactly if every name on the way to it from the
root is kept, its own included, and its extension tells an audited language. The files come in the
order of their components, by bytes: this is the order of the names in each directory carried
through the tree, and not the order of the paths as strings. A directory that permits too little
makes the walk fail; where all directories can be read it never does.
-/

namespace InlineAudit

open Files Text

namespace Language

/-- The extension of a path, in lower case, is listed for the language. -/
theorem ofPath?_eq_some_iff {path language : String} :
    ofPath? path = some language ↔
      (lowerString (Path.extension path), language) ∈ extensions := by
  have hlisted : ∀ pair ∈ extensions, extensions.lookup pair.1 = some pair.2 := by decide
  rw [ofPath?]
  constructor
  · intro h
    obtain ⟨before, after, hsplit, -⟩ := List.lookup_eq_some_iff.mp h
    rw [hsplit]
    simp
  · intro h
    exact hlisted (lowerString (Path.extension path), language) h

theorem isSupported_of_mem_extensions {ext language : String}
    (h : (ext, language) ∈ extensions) : isSupported language = true := by
  have hall : ∀ pair ∈ extensions, isSupported pair.2 = true := by decide
  exact hall _ h

end Language

/-- A name behind the names in front of it is neither one of those that never hold sources nor at
the end of an ignored path. -/
def Kept (ignored : String → Bool) (front : List String) (name : String) : Prop :=
  name ∉ skippedNames ∧ ignored (join "/" (front ++ [name])) = false

/-- Every name on a way is kept, from the first to the last one. -/
def WayOpen (ignored : String → Bool) (front way : List String) : Prop :=
  ∀ done name rest, way = done ++ name :: rest → Kept ignored (front ++ done) name

/-- A source file below a root: a regular file whose way is open and whose extension, in lower
case, stands for an audited language. -/
structure IsSource (ignored : String → Bool) (root : Node) (f : SourceFile) (above : List String)
    (name : String) (content : Bytes) : Prop where
  reached : ∃ access, root.Reaches (above ++ [name]) (.file name content access)
  wayOpen : WayOpen ignored [] (above ++ [name])
  extension : (lowerString (Path.extension name), f.language) ∈ Language.extensions
  supported : Language.isSupported f.language
  told : f = { path := join "/" (above ++ [name]), size := content.length,
               ext := Path.extension name, language := f.language }

/-- The order of files: by components, each compared by its bytes. -/
def ComesBefore (a b : SourceFile) : Prop :=
  (Path.components a.path).map encodeString < (Path.components b.path).map encodeString

/-- The right choice of files below a root. -/
structure Chooses (ignored : String → Bool) (root : Node) (files : List SourceFile) : Prop where
  mem_iff : ∀ f, f ∈ files ↔ ∃ above name content, IsSource ignored root f above name content
  once : (files.map (·.path)).Nodup
  increasing : files.Pairwise ComesBefore

namespace Walk

variable {ignored : String → Bool} {front : List String}

theorem wayOpen_cons {name : String} {way : List String} :
    WayOpen ignored front (name :: way) ↔
      Kept ignored front name ∧ WayOpen ignored (front ++ [name]) way := by
  constructor
  · intro h
    refine ⟨by simpa using h [] name way rfl, ?_⟩
    rintro done next rest rfl
    simpa using h (name :: done) next rest rfl
  · rintro ⟨hname, hway⟩ done next rest hsplit
    cases done with
    | nil =>
      obtain ⟨rfl, -⟩ := List.cons.inj hsplit
      simpa using hname
    | cons first done =>
      obtain ⟨rfl, hrest⟩ := List.cons.inj hsplit
      simpa using hway done next rest hrest

theorem wayOpen_nil : WayOpen ignored front [] := by
  intro done name rest hsplit
  simp at hsplit

theorem kept_iff {name : String} :
    Kept ignored front name ↔
      ¬((skippedNames.contains name || ignored (join "/" (front ++ [name]))) = true) := by
  simp [Kept]

theorem join_concat (hfront : front ≠ []) (name : String) :
    join "/" (front ++ [name]) = join "/" front ++ "/" ++ name := by
  simpa [join] using String.intercalate_append_of_ne_nil (s := "/") hfront (m := [name]) (by simp)

/-! ### The entries of a directory -/

theorem mapM_snd_eq_ok_iff {α : Type} {lists : List (String × Except PathError α)}
    {all : List α} : lists.mapM Prod.snd = .ok all ↔ lists.map Prod.snd = all.map .ok := by
  induction lists generalizing all with
  | nil => cases all <;> simp [pure, Except.pure]
  | cons first rest ih =>
    obtain ⟨name, list⟩ := first
    rw [List.mapM_cons, List.map_cons]
    cases list with
    | error cause => cases all <;> simp [bind, Except.bind]
    | ok list =>
      cases all with
      | nil => cases hrest : rest.mapM Prod.snd <;> simp [bind, Except.bind, pure, Except.pure]
      | cons head tail =>
        rw [List.map_cons, List.cons.injEq, ← ih]
        cases hrest : rest.mapM Prod.snd <;> simp [bind, Except.bind, pure, Except.pure]

/-- The entries of a directory in the order that the walk takes them. -/
def byName (entries : List Node) : List Node := entries.mergeSort fun a b => a.name ≤ b.name

theorem mem_byName {entries : List Node} {node : Node} : node ∈ byName entries ↔ node ∈ entries :=
  List.mem_mergeSort

section

variable {α : Type} {found : Node → Except PathError (List α)} {entries : List Node}
  {files : List α}

theorem inNameOrder_eq_ok_iff_map :
    inNameOrder (entries.map fun node => (node.name, found node)) = .ok files ↔
      ∃ all : List (List α), (byName entries).map found = all.map .ok ∧ all.flatten = files := by
  have hsorted : (byName entries).map (fun node => (node.name, found node)) =
      (entries.map fun node => (node.name, found node)).mergeSort fun a b => a.1 ≤ b.1 :=
    List.map_mergeSort fun a _ b _ => rfl
  have hsnd : ((byName entries).map fun node => (node.name, found node)).map Prod.snd =
      (byName entries).map found := by simp
  rw [inNameOrder, ← hsorted, ← hsnd]
  simp only [← mapM_snd_eq_ok_iff]
  cases ((byName entries).map fun node => (node.name, found node)).mapM Prod.snd <;>
    simp [Except.map]

/-- Entries give files if each of them does; they come in the order of the names. -/
theorem inNameOrder_eq_ok_iff :
    inNameOrder (entries.map fun node => (node.name, found node)) = .ok files ↔
      ∃ lists : Node → List α, (∀ node ∈ entries, found node = .ok (lists node)) ∧
        files = (byName entries).flatMap lists := by
  rw [inNameOrder_eq_ok_iff_map]
  constructor
  · rintro ⟨all, hall, rfl⟩
    have hlists : ∀ node ∈ entries, found node = .ok ((found node).toOption.getD []) := by
      intro node hnode
      have hmem : found node ∈ all.map .ok := hall ▸ List.mem_map_of_mem (mem_byName.mpr hnode)
      obtain ⟨list, -, hlist⟩ := List.mem_map.mp hmem
      rw [← hlist]
      rfl
    refine ⟨_, hlists, congrArg List.flatten ?_⟩
    refine List.map_injective_iff.mpr (fun a b => Except.ok.inj) (hall.symm.trans ?_)
    rw [List.map_map]
    exact List.map_congr_left fun node hnode => hlists node (mem_byName.mp hnode)
  · rintro ⟨lists, hlists, rfl⟩
    refine ⟨(byName entries).map lists, ?_, rfl⟩
    rw [List.map_map]
    exact List.map_congr_left fun node hnode => hlists node (mem_byName.mp hnode)

end

theorem sourcesIn_eq_map (ignored : String → Bool) (root : String) (access : Access)
    (above : String) (entries : List Node) :
    sourcesIn ignored root access above entries =
      entries.map fun node => (node.name,
        if access.search then sourcesAt ignored root (above ++ node.name) node
        else .error ⟨"lstat", Path.joinTo root (above ++ node.name), .permission⟩) := by
  induction entries with
  | nil => rfl
  | cons node rest ih => rw [sourcesIn, ih, List.map_cons]

/-- What the entries of a directory give. -/
theorem sourcesIn_eq_ok_iff {root above : String} {access : Access} {entries : List Node}
    {files : List SourceFile} :
    inNameOrder (sourcesIn ignored root access above entries) = .ok files ↔
      ∃ lists : Node → List SourceFile,
        (∀ node ∈ entries, access.search = true ∧
          sourcesAt ignored root (above ++ node.name) node = .ok (lists node)) ∧
        files = (byName entries).flatMap lists := by
  rw [sourcesIn_eq_map, inNameOrder_eq_ok_iff]
  cases access.search <;> simp

/-- What a directory gives. It is listed first, and then left out or gone through. -/
theorem sourcesAt_dir_eq_ok_iff {root relative name : String} {entries : List Node}
    {access : Access} {files : List SourceFile} :
    sourcesAt ignored root relative (.dir name entries access) = .ok files ↔
      access.read = true ∧
        if skippedNames.contains name || ignored relative then files = []
        else ∃ lists : Node → List SourceFile,
          (∀ node ∈ entries, access.search = true ∧
            sourcesAt ignored root (relative ++ "/" ++ node.name) node = .ok (lists node)) ∧
          files = (byName entries).flatMap lists := by
  rw [sourcesAt]
  cases access.read with
  | false => simp
  | true =>
    simp only [Bool.not_true, Bool.false_eq_true, if_false, true_and]
    split
    · simp [eq_comm]
    · exact sourcesIn_eq_ok_iff

theorem sourcesOf_file_eq_ok_iff {root name : String} {content : Bytes} {access : Access}
    {files : List SourceFile} :
    sourcesOf ignored root (.file name content access) = .ok files ↔
      files = if skippedNames.contains (Path.base root) then []
        else (sourceFile? "." (Path.base root) content).toList := by
  rw [sourcesOf]
  split <;> simp [eq_comm]

/-- What a root directory gives; nothing else is asked about it than what is in it. -/
theorem sourcesOf_dir_eq_ok_iff {root name : String} {entries : List Node} {access : Access}
    {files : List SourceFile} :
    sourcesOf ignored root (.dir name entries access) = .ok files ↔
      access.read = true ∧ ∃ lists : Node → List SourceFile,
        (∀ node ∈ entries, access.search = true ∧
          sourcesAt ignored root ("" ++ node.name) node = .ok (lists node)) ∧
        files = (byName entries).flatMap lists := by
  rw [sourcesOf]
  cases access.read with
  | false => simp
  | true =>
    simp only [Bool.not_true, Bool.false_eq_true, if_false, true_and]
    exact sourcesIn_eq_ok_iff

theorem mem_sourceFile? {relative name : String} {content : Bytes} {f : SourceFile} :
    f ∈ (sourceFile? relative name content).toList ↔
      (lowerString (Path.extension name), f.language) ∈ Language.extensions ∧
        f = { path := relative, size := content.length, ext := Path.extension name,
              language := f.language } := by
  rw [Option.mem_toList, sourceFile?, Option.map_eq_some_iff]
  constructor
  · rintro ⟨language, hlanguage, rfl⟩
    exact ⟨Language.ofPath?_eq_some_iff.mp hlanguage, rfl⟩
  · rintro ⟨hlisted, hf⟩
    exact ⟨f.language, Language.ofPath?_eq_some_iff.mpr hlisted, hf.symm⟩

/-! ### Which files are chosen -/

theorem sourcesAt_file_eq_ok_iff {root relative name : String} {content : Bytes} {access : Access}
    {files : List SourceFile} :
    sourcesAt ignored root relative (.file name content access) = .ok files ↔
      files = if skippedNames.contains name || ignored relative then []
        else (sourceFile? relative name content).toList := by
  rw [sourcesAt]
  split <;> simp [eq_comm]

/-- The files at or below a node, whose own name ends the place it is found at. -/
theorem mem_sourcesAt {root : String} {node : Node} {files : List SourceFile}
    (h : sourcesAt ignored root (join "/" (front ++ [node.name])) node = .ok files)
    {f : SourceFile} :
    f ∈ files ↔
      ∃ rest name content access, node.Reaches rest (.file name content access) ∧
        WayOpen ignored front (node.name :: rest) ∧
        f ∈ (sourceFile? (join "/" (front ++ node.name :: rest)) name content).toList := by
  induction node using Node.inductionOn generalizing front files with
  | file name content access =>
    rw [Node.name_file, sourcesAt_file_eq_ok_iff] at h
    subst h
    constructor
    · intro hf
      split at hf
      · cases hf
      · rename_i hkept
        exact ⟨[], name, content, access, .here _,
          wayOpen_cons.mpr ⟨kept_iff.mpr hkept, wayOpen_nil⟩, hf⟩
    · rintro ⟨rest, name', content', access', hreach, hopen, hf⟩
      cases hreach
      rw [Node.name_file] at hopen hf
      rwa [if_neg (kept_iff.mp (wayOpen_cons.mp hopen).1)]
  | link name target =>
    rw [sourcesAt] at h
    cases h
    constructor
    · intro hf
      cases hf
    · rintro ⟨rest, name', content', access', hreach, -⟩
      cases hreach
  | dir name entries access ih =>
    have hlead : ∀ child : Node, join "/" (front ++ [name]) ++ "/" ++ child.name =
        join "/" (front ++ [name] ++ [child.name]) :=
      fun child => (join_concat (by simp) child.name).symm
    rw [Node.name_dir, sourcesAt_dir_eq_ok_iff] at h
    rw [Node.name_dir]
    obtain ⟨-, h⟩ := h
    split at h
    · -- a directory that is left out is on no open way
      rename_i hclosed
      subst h
      refine iff_of_false List.not_mem_nil ?_
      rintro ⟨rest, name', content, access', -, hopen, -⟩
      exact kept_iff.mp (wayOpen_cons.mp hopen).1 hclosed
    · rename_i hkept
      obtain ⟨lists, hlists, rfl⟩ := h
      have hbelow : ∀ child ∈ entries, f ∈ lists child ↔ _ := fun child hchild =>
        ih child hchild (hlead child ▸ (hlists child hchild).2)
      rw [List.mem_flatMap]
      constructor
      · rintro ⟨child, hchild, hf⟩
        rw [mem_byName] at hchild
        obtain ⟨rest, name', content, access', hreach, hopen, hf⟩ := (hbelow child hchild).mp hf
        refine ⟨child.name :: rest, name', content, access', .into hchild hreach, ?_, ?_⟩
        · exact wayOpen_cons.mpr ⟨kept_iff.mpr hkept, hopen⟩
        · simpa using hf
      · rintro ⟨rest, name', content, access', hreach, hopen, hf⟩
        cases hreach with
        | @into _ _ _ child _ rest hchild hreach =>
          refine ⟨child, mem_byName.mpr hchild, (hbelow child hchild).mpr ?_⟩
          exact ⟨rest, name', content, access', hreach, (wayOpen_cons.mp hopen).2,
            by simpa using hf⟩

/-- Below a root, the names on the way to an entry begin with its own. -/
theorem join_first (node : Node) : "" ++ node.name = join "/" ([] ++ [node.name]) := by
  simp [join]

/-- The files below a root directory. -/
theorem mem_sourcesOf_dir {root dirName : String} {entries : List Node} {access : Access}
    {files : List SourceFile}
    (h : sourcesOf ignored root (.dir dirName entries access) = .ok files) {f : SourceFile} :
    f ∈ files ↔ ∃ above last content,
      IsSource ignored (.dir dirName entries access) f above last content := by
  obtain ⟨-, lists, hlists, rfl⟩ := sourcesOf_dir_eq_ok_iff.mp h
  have hbelow : ∀ child ∈ entries, f ∈ lists child ↔ _ := fun child hchild =>
    mem_sourcesAt (join_first child ▸ (hlists child hchild).2)
  rw [List.mem_flatMap]
  constructor
  · rintro ⟨child, hchild, hf⟩
    rw [mem_byName] at hchild
    obtain ⟨rest, last, content, access', hreach, hopen, hf⟩ := (hbelow child hchild).mp hf
    obtain ⟨above, hplace⟩ := List.getLast?_eq_some_iff.mp hreach.getLast_name
    rw [Node.name_file] at hplace
    rw [List.nil_append, hplace] at hf
    obtain ⟨hlisted, htold⟩ := mem_sourceFile?.mp hf
    exact ⟨above, last, content, ⟨access', hplace ▸ .into hchild hreach⟩, hplace ▸ hopen, hlisted,
      Language.isSupported_of_mem_extensions hlisted, htold⟩
  · rintro ⟨above, last, content, ⟨access', hreach⟩, hopen, hlisted, -, htold⟩
    generalize hplace : above ++ [last] = place at hreach hopen htold
    cases hreach with
    | @into _ _ _ child _ rest hchild hreach =>
      refine ⟨child, mem_byName.mpr hchild, (hbelow child hchild).mpr ?_⟩
      exact ⟨rest, last, content, access', hreach, hopen, mem_sourceFile?.mpr ⟨hlisted, htold⟩⟩

/-! ### In which order -/

/-- Names without a slash are the components of the path they make up. -/
theorem components_join_names {names : List String} (hne : names ≠ [])
    (h : ∀ name ∈ names, '/' ∉ name.toList) : Path.components (join "/" names) = names := by
  rw [Path.components_join hne]
  calc names.flatMap Path.components
      = names.flatMap fun name => [name] :=
        List.flatMap_congr fun name hname => Path.components_of_no_slash (h name hname)
    _ = names := List.flatMap_singleton' names

theorem no_slash_concat {name : String} (hfront : ∀ part ∈ front, '/' ∉ part.toList)
    (hname : '/' ∉ name.toList) : ∀ part ∈ front ++ [name], '/' ∉ part.toList := by
  intro part hpart
  rcases List.mem_append.mp hpart with hpart | hpart
  · exact hfront part hpart
  · obtain rfl := List.mem_singleton.mp hpart
    exact hname

/-- The components of a file at or below a node. -/
theorem components_of_mem_sourcesAt {root : String} {node : Node} (hnode : node.WellFormed)
    (hfront : ∀ part ∈ front ++ [node.name], '/' ∉ part.toList) {files : List SourceFile}
    (h : sourcesAt ignored root (join "/" (front ++ [node.name])) node = .ok files)
    {f : SourceFile} (hf : f ∈ files) :
    ∃ rest, Path.components f.path = front ++ node.name :: rest := by
  obtain ⟨rest, last, content, access, hreach, -, hf⟩ := (mem_sourcesAt h).mp hf
  obtain ⟨-, htold⟩ := mem_sourceFile?.mp hf
  have hnames : ∀ part ∈ front ++ node.name :: rest, '/' ∉ part.toList := by
    intro part hpart
    rw [← List.singleton_append, ← List.append_assoc] at hpart
    rcases List.mem_append.mp hpart with hpart | hpart
    · exact hfront part hpart
    · exact hreach.no_slash hnode part hpart
  refine ⟨rest, ?_⟩
  rw [htold]
  exact components_join_names (by simp) hnames

/-- Entries come in the order of their names. -/
theorem byName_increasing {entries : List Node} (hentries : Node.WellFormedAll entries) :
    (byName entries).Pairwise fun a b => a.name < b.name := by
  have hdistinct : (byName entries).Pairwise fun a b => a.name ≠ b.name :=
    ((List.mergeSort_perm entries _).pairwise_iff fun hne => hne.symm).mpr hentries.names_distinct
  have hsorted : (byName entries).Pairwise fun a b => decide (a.name ≤ b.name) = true := by
    refine List.pairwise_mergeSort ?_ ?_ entries
    · simpa using fun a b c : Node => String.le_trans
    · simpa using fun a b : Node => String.le_total a.name b.name
  exact (hdistinct.and hsorted).imp fun ⟨hne, hle⟩ =>
    Std.lt_of_le_of_ne (by simpa using hle) hne

/-- And so do the files below them. -/
theorem flatMap_byName_increasing {root : String} {entries : List Node}
    (hentries : Node.WellFormedAll entries) (hfront : ∀ part ∈ front, '/' ∉ part.toList)
    {lists : Node → List SourceFile}
    (hlists : ∀ child ∈ entries,
      sourcesAt ignored root (join "/" (front ++ [child.name])) child = .ok (lists child))
    (hbelow : ∀ child ∈ entries, (lists child).Pairwise ComesBefore) :
    ((byName entries).flatMap lists).Pairwise ComesBefore := by
  rw [List.pairwise_flatMap]
  refine ⟨fun child hchild => hbelow child (mem_byName.mp hchild), ?_⟩
  refine (byName_increasing hentries).imp_of_mem ?_
  intro child other hchild hother hlt a ha b hb
  rw [mem_byName] at hchild hother
  obtain ⟨hname, hwell⟩ := hentries.of_mem hchild
  obtain ⟨hname', hwell'⟩ := hentries.of_mem hother
  obtain ⟨rest, hrest⟩ :=
    components_of_mem_sourcesAt hwell (no_slash_concat hfront hname) (hlists child hchild) ha
  obtain ⟨rest', hrest'⟩ :=
    components_of_mem_sourcesAt hwell' (no_slash_concat hfront hname') (hlists other hother) hb
  rw [ComesBefore, hrest, hrest', List.map_append, List.map_append, List.map_cons, List.map_cons]
  exact List.append_left_lt (List.cons_lt_cons_iff.mpr (Or.inl (encodeString_lt hlt)))

theorem sourcesAt_increasing {root : String} {node : Node} (hnode : node.WellFormed)
    (hfront : ∀ part ∈ front ++ [node.name], '/' ∉ part.toList) {files : List SourceFile}
    (h : sourcesAt ignored root (join "/" (front ++ [node.name])) node = .ok files) :
    files.Pairwise ComesBefore := by
  induction node using Node.inductionOn generalizing front files with
  | file name content access =>
    rw [sourcesAt_file_eq_ok_iff] at h
    subst h
    split
    · exact .nil
    · cases sourceFile? (join "/" (front ++ [(Node.file name content access).name])) name
        content with
      | none => exact .nil
      | some f => exact List.pairwise_singleton ..
  | link name target =>
    rw [sourcesAt] at h
    cases h
    exact .nil
  | dir name entries access ih =>
    obtain ⟨-, h⟩ := sourcesAt_dir_eq_ok_iff.mp h
    split at h
    · subst h
      exact .nil
    · obtain ⟨lists, hlists, rfl⟩ := h
      have hlead : ∀ child ∈ entries,
          sourcesAt ignored root (join "/" (front ++ [name] ++ [child.name])) child =
            .ok (lists child) := by
        intro child hchild
        rw [join_concat (by simp)]
        exact (hlists child hchild).2
      refine flatMap_byName_increasing hnode hfront hlead fun child hchild => ?_
      obtain ⟨hname, hwell⟩ := Node.WellFormedAll.of_mem hnode hchild
      exact ih child hchild hwell (no_slash_concat hfront hname) (hlead child hchild)

theorem sourcesOf_dir_increasing {root dirName : String} {entries : List Node} {access : Access}
    (hentries : Node.WellFormedAll entries) {files : List SourceFile}
    (h : sourcesOf ignored root (.dir dirName entries access) = .ok files) :
    files.Pairwise ComesBefore := by
  obtain ⟨-, lists, hlists, rfl⟩ := sourcesOf_dir_eq_ok_iff.mp h
  have hlead : ∀ child ∈ entries,
      sourcesAt ignored root (join "/" ([] ++ [child.name])) child = .ok (lists child) :=
    fun child hchild => join_first child ▸ (hlists child hchild).2
  refine flatMap_byName_increasing hentries (by simp) hlead fun child hchild => ?_
  obtain ⟨hname, hwell⟩ := hentries.of_mem hchild
  exact sourcesAt_increasing hwell (no_slash_concat (by simp) hname) (hlead child hchild)

/-! ### Where the walk fails -/

/-- Where all directories can be read, the walk comes to an end. -/
theorem sourcesAt_of_readable {root relative : String} {node : Node} (h : node.Readable) :
    ∃ files, sourcesAt ignored root relative node = .ok files := by
  induction node using Node.inductionOn generalizing relative with
  | file name content access => exact ⟨_, sourcesAt_file_eq_ok_iff.mpr rfl⟩
  | link name target => exact ⟨[], by rw [sourcesAt]⟩
  | dir name entries access ih =>
    obtain ⟨hread, hsearch, hentries⟩ := h
    by_cases hclosed : (skippedNames.contains name || ignored relative) = true
    · refine ⟨[], sourcesAt_dir_eq_ok_iff.mpr ⟨hread, ?_⟩⟩
      rw [if_pos hclosed]
    · have hall : ∀ child ∈ entries, ∃ list,
          sourcesAt ignored root (relative ++ "/" ++ child.name) child = .ok list :=
        fun child hchild => ih child hchild (hentries.of_mem hchild)
      choose! lists hlists using hall
      refine ⟨(byName entries).flatMap lists, sourcesAt_dir_eq_ok_iff.mpr ⟨hread, ?_⟩⟩
      rw [if_neg hclosed]
      exact ⟨lists, fun child hchild => ⟨hsearch, hlists child hchild⟩, rfl⟩

theorem sourcesOf_of_readable {root : String} {node : Node} (h : node.Readable) :
    ∃ files, sourcesOf ignored root node = .ok files := by
  cases node with
  | file name content access => exact ⟨_, sourcesOf_file_eq_ok_iff.mpr rfl⟩
  | link name target => exact ⟨[], rfl⟩
  | dir name entries access =>
    obtain ⟨hread, hsearch, hentries⟩ := h
    have hall : ∀ child ∈ entries, ∃ list,
        sourcesAt ignored root ("" ++ child.name) child = .ok list :=
      fun child hchild => sourcesAt_of_readable (hentries.of_mem hchild)
    choose! lists hlists using hall
    exact ⟨_, sourcesOf_dir_eq_ok_iff.mpr
      ⟨hread, lists, fun child hchild => ⟨hsearch, hlists child hchild⟩, rfl⟩⟩

end Walk

theorem paths_nodup_of_increasing {files : List SourceFile} (h : files.Pairwise ComesBefore) :
    (files.map (·.path)).Nodup := by
  refine List.pairwise_map.mpr (h.imp ?_)
  intro a b hlt heq
  rw [ComesBefore, heq] at hlt
  exact List.lt_irrefl _ hlt

/-! ### Places of different files -/

theorem IsSource.components_path {ignored : String → Bool} {root : Node} {f : SourceFile}
    {above : List String} {name : String} {content : Bytes}
    (h : IsSource ignored root f above name content) (hroot : root.WellFormed) :
    Path.components f.path = above ++ [name] := by
  obtain ⟨access, hreached⟩ := h.reached
  rw [h.told]
  exact Walk.components_join_names (by simp) (hreached.no_slash hroot)

section

variable {ignored : String → Bool} {root : String} {node : Node} {files : List SourceFile}

/-- A root that is a file is chosen under the path of the root or not at all. -/
theorem path_of_mem_sourcesOf_file {name : String} {content : Bytes} {access : Access}
    (h : sourcesOf ignored root (.file name content access) = .ok files) {f : SourceFile}
    (hf : f ∈ files) : f.path = "." := by
  rw [Walk.sourcesOf_file_eq_ok_iff] at h
  subst h
  split at hf
  · cases hf
  · rw [(Walk.mem_sourceFile?.mp hf).2]

theorem sourcesOf_paths_nodup (hnode : node.WellFormed)
    (h : sourcesOf ignored root node = .ok files) : (files.map (·.path)).Nodup := by
  cases node with
  | file name content access =>
    rw [Walk.sourcesOf_file_eq_ok_iff] at h
    subst h
    split
    · exact .nil
    · cases sourceFile? "." (Path.base root) content with
      | none => exact .nil
      | some f => exact List.pairwise_singleton ..
  | link name target =>
    cases h
    exact .nil
  | dir name entries access =>
    exact paths_nodup_of_increasing (Walk.sourcesOf_dir_increasing hnode h)

/-- Files have no files below them, so no path of a chosen file runs through another one. -/
theorem sourcesOf_paths_apart (hnode : node.WellFormed)
    (h : sourcesOf ignored root node = .ok files) {a b : SourceFile} (ha : a ∈ files)
    (hb : b ∈ files) : ¬Path.IsAbove a.path b.path := by
  rintro ⟨⟨rest, hrest⟩, hne⟩
  cases node with
  | file name content access =>
    rw [path_of_mem_sourcesOf_file h ha, path_of_mem_sourcesOf_file h hb] at hne
    exact hne rfl
  | link name target =>
    cases h
    cases ha
  | dir name entries access =>
    obtain ⟨above, last, content, ha⟩ := (Walk.mem_sourcesOf_dir h).mp ha
    obtain ⟨above', last', content', hb⟩ := (Walk.mem_sourcesOf_dir h).mp hb
    rw [ha.components_path hnode, hb.components_path hnode] at hrest hne
    obtain ⟨access, hreached⟩ := ha.reached
    obtain ⟨access', hreached'⟩ := hb.reached
    rw [← hrest] at hreached'
    have hnil := (hreached.behind hreached' hnode).eq_nil_of_file
    rw [hnil, List.append_nil] at hrest
    exact hne hrest

end

/-! ### The choice as a whole -/

theorem sourcesOf_chooses {ignored : String → Bool} {root dirName : String} {entries : List Node}
    {access : Access} (hentries : Node.WellFormedAll entries) {files : List SourceFile}
    (h : sourcesOf ignored root (.dir dirName entries access) = .ok files) :
    Chooses ignored (.dir dirName entries access) files where
  mem_iff _ := Walk.mem_sourcesOf_dir h
  once := paths_nodup_of_increasing (Walk.sourcesOf_dir_increasing hentries h)
  increasing := Walk.sourcesOf_dir_increasing hentries h

/-- A walk of a directory that gives its source files, unless it fails, for which a directory must
be there that cannot be read. -/
structure WalksRight (ignored : String → Bool) (node : Node)
    (result : Except PathError (List SourceFile)) : Prop where
  chooses : ∀ files, result = .ok files → Chooses ignored node files
  succeeds : node.Readable → ∃ files, result = .ok files

/-- Below a root directory, whatever it is called and whatever is ignored, the walk chooses the
source files and no others, each once and in the order of their components. In particular it does
so with the ignore patterns of a system. Where all directories can be read, it never fails. -/
theorem walk_chooses_sources {entries : List Node} (hentries : Node.WellFormedAll entries) :
    (∀ ignored root dirName access,
      WalksRight ignored (.dir dirName entries access)
        (sourcesOf ignored root (.dir dirName entries access))) ∧
    ∀ (system : System) patterns root dirName access,
      system.lstat root = .ok (.dir dirName entries access) →
        WalksRight (isIgnored patterns) (.dir dirName entries access)
          (sourceFiles system patterns root) := by
  have hwalk : ∀ ignored root dirName access,
      WalksRight ignored (.dir dirName entries access)
        (sourcesOf ignored root (.dir dirName entries access)) := fun _ _ _ _ =>
    { chooses := fun _ h => sourcesOf_chooses hentries h
      succeeds := Walk.sourcesOf_of_readable }
  refine ⟨hwalk, fun system patterns root dirName access hroot => ?_⟩
  rw [sourceFiles, hroot]
  exact hwalk ..

/-- A tree with a skipped directory, a link, and a name between that of a directory and the paths
below it. -/
def sampleEntries : List Node :=
  [.file "main.GO" [0x0A],
   .dir "a" [.dir "build" [.file "B.java" []], .file "A.java" [], .link "C.java" "A.java"],
   .file "a.java" []]

def sampleSystem : System := { top := [.dir "bin" sampleEntries], cwd := "/" }

theorem sampleSystem_bin : sampleSystem.lstat "/bin" = .ok (.dir "bin" sampleEntries) := by
  have hrooted : "/bin" = Path.rooted ["bin"] := by decide +kernel
  have hentry : lookupEntry "bin" sampleSystem.top = some (.dir "bin" sampleEntries) := rfl
  rw [System.lstat, hrooted, System.find_top (by decide) hentry (by simp)]
  rfl

theorem sampleEntries_readable : (Node.dir "bin" sampleEntries).Readable := by
  simp [sampleEntries, Node.Readable, Node.ReadableAll]

theorem sampleEntries_chosen :
    Node.WellFormedAll sampleEntries ∧
    sampleSystem.lstat "/bin" = .ok (.dir "bin" sampleEntries) ∧
    (∃ files, sourcesOf (fun path => path = "a.java") "bin" (.dir "bin" sampleEntries) = .ok files ∧
      Chooses (fun path => path = "a.java") (.dir "bin" sampleEntries) files) ∧
    ∃ files, sourceFiles sampleSystem none "/bin" = .ok files ∧
      Chooses (isIgnored none) (.dir "bin" sampleEntries) files := by
  have hwell : Node.WellFormedAll sampleEntries := by
    simp [sampleEntries, Node.WellFormedAll, Node.WellFormed, Node.name]
  obtain ⟨hany, hsystem⟩ := walk_chooses_sources hwell
  have hsome := hany (fun path => path = "a.java") "bin" "bin" {}
  have hall := hsystem sampleSystem none "/bin" "bin" {} sampleSystem_bin
  obtain ⟨some, hsomeFiles⟩ := hsome.succeeds sampleEntries_readable
  obtain ⟨all, hallFiles⟩ := hall.succeeds sampleEntries_readable
  exact ⟨hwell, sampleSystem_bin, ⟨some, hsomeFiles, hsome.chooses _ hsomeFiles⟩,
    ⟨all, hallFiles, hall.chooses _ hallFiles⟩⟩

end InlineAudit
