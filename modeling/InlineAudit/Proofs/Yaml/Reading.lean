import InlineAudit.Yaml.Fields

/-!
What reading does not depend on. A structure is read into one that holds something already, and what
it holds decides nothing: reading goes on alike over any two structures, with the same errors, and
changes the same fields to the same values. The values are those of nodes that stand at the keys of
the fields, so a field whose key is not there keeps what it held.
-/

namespace InlineAudit.Yaml

open Text

/-! ### Readings that go on alike -/

section Alike

variable {ι α β : Type}

/-- The readings of a family are alike: from any state they fail with one error, or they leave one
state and give values that are good together. -/
def Alike (good : (ι → α) → Prop) (read : ι → Reader α) : Prop :=
  ∀ s, (∃ e, ∀ i, (read i).run s = .error e) ∨
    ∃ values s', good values ∧ ∀ i, (read i).run s = .ok (values i, s')

/-- All values of a family are one, which has a property. -/
def Constant (p : α → Prop) (values : ι → α) : Prop := ∃ a, p a ∧ values = fun _ => a

theorem Alike.pure {good : (ι → α) → Prop} {values : ι → α} (h : good values) :
    Alike good fun i => Pure.pure (values i) :=
  fun s => Or.inr ⟨values, s, h, fun _ => rfl⟩

theorem Alike.throw {good : (ι → α) → Prop} (e : ReadError) :
    Alike good fun _ => (MonadExcept.throw e : Reader α) :=
  fun _ => Or.inl ⟨e, fun _ => rfl⟩

/-- A reader alone is alike itself. -/
theorem alike_constant (read : Reader α) : Alike (Constant fun _ => True) fun _ : ι => read := by
  intro s
  cases hread : read.run s with
  | error e => exact Or.inl ⟨e, fun _ => hread⟩
  | ok result => exact Or.inr ⟨_, result.2, ⟨result.1, trivial, rfl⟩, fun _ => hread⟩

theorem Alike.bind {good : (ι → α) → Prop} {good' : (ι → β) → Prop} {read : ι → Reader α}
    {more : ι → α → Reader β} (h : Alike good read)
    (hmore : ∀ values, good values → Alike good' fun i => more i (values i)) :
    Alike good' fun i => read i >>= more i := by
  intro s
  simp only [StateT.run_bind]
  obtain ⟨e, herror⟩ | ⟨values, s', hgood, hread⟩ := h s
  · refine Or.inl ⟨e, fun i => ?_⟩
    rw [herror i]
    rfl
  · obtain ⟨e, herror⟩ | ⟨results, s'', hresults, hrun⟩ := hmore values hgood s'
    · refine Or.inl ⟨e, fun i => ?_⟩
      rw [hread i]
      exact herror i
    · refine Or.inr ⟨results, s'', hresults, fun i => ?_⟩
      rw [hread i]
      exact hrun i

/-- What a reader gives that is the same for all, the others may go on with. -/
theorem Alike.andThen {p : α → Prop} {good : (ι → β) → Prop} {read : Reader α}
    {more : ι → α → Reader β} (h : Alike (Constant p) fun _ : ι => read)
    (hmore : ∀ a, p a → Alike good fun i => more i a) :
    Alike good fun i => read >>= more i := by
  refine h.bind fun values hvalues => ?_
  obtain ⟨a, ha, rfl⟩ := hvalues
  exact hmore a ha

/-- A step that gives nothing of interest. -/
theorem Alike.after {good : (ι → β) → Prop} {more : ι → α → Reader β} (read : Reader α)
    (hmore : ∀ a, Alike good fun i => more i a) : Alike good fun i => read >>= more i :=
  (alike_constant read).andThen fun a _ => hmore a

/-! ### Nodes -/

/-- The node that a node stands for: itself, or for an alias the node that it refers to. -/
def Document.target? (document : Document) : Node → Option Node
  | .alias _ _ _ number => document.find? number
  | node => some node

/-- A node is read as the one that it stands for. -/
theorem Alike.visit {good : (ι → α) → Prop} {document : Document} {node : Node}
    {read : ι → Node → Reader α}
    (h : ∀ target, document.target? node = some target → Alike good fun i => read i target) :
    Alike good fun i => document.visit node (read i) := by
  refine .after _ fun _ => ?_
  cases node with
  | scalar | sequence | mapping => exact h _ rfl
  | «alias» line name serial number =>
    refine .after _ fun state => ?_
    cases hfind : document.find? number with
    | none => exact .throw _
    | some target =>
      dsimp only
      split
      · exact .throw _
      · refine .after _ fun _ => .after _ fun _ => (h target hfind).bind fun values hvalues => ?_
        exact .after _ fun _ => .pure hvalues

/-- What is merged in has to be a mapping. -/
theorem Alike.visitSource {good : (ι → α) → Prop} {document : Document} {source : Node}
    {read : ι → List (Node × Node) → Reader α}
    (h : ∀ line tag pairs, document.target? source = some (.mapping line tag pairs) →
      Alike good fun i => read i pairs) :
    Alike good fun i => document.visitSource source (read i) := by
  simp only [Document.visitSource]
  split
  · exact .throw _
  · refine .visit fun found hfound => ?_
    cases found with
    | mapping line tag pairs => exact h line tag pairs hfound
    | scalar | sequence | «alias» => exact .throw _

/-- The value of a scalar, made by `take` of what it means and how it is spelled. Null is none. -/
def Document.scalar? (document : Document) (take : Value → String → Option α) (node : Node) :
    Option α :=
  match document.target? node with
  | some (.scalar _ tag text) =>
    (Value.ofTagged? tag text).bind fun value => if value = .null then none else take value text
  | _ => none

theorem scalarValue_alike (tag text : String) :
    Alike (Constant fun value => Value.ofTagged? tag text = some value)
      fun _ : ι => scalarValue tag text := by
  rw [scalarValue]
  cases hvalue : Value.ofTagged? tag text with
  | none => exact .throw _
  | some value => exact .pure ⟨value, rfl, rfl⟩

theorem readScalar_alike (document : Document) (target : String)
    (take : Value → String → Option α) (node : Node) :
    Alike (Constant (· = document.scalar? take node))
      fun _ : ι => readScalar target take document node := by
  refine .visit fun found hfound => ?_
  cases found with
  | sequence | mapping | «alias» =>
    refine .after _ fun _ => .pure ⟨_, ?_, rfl⟩
    simp [Document.scalar?, hfound]
  | scalar line tag text =>
    refine (scalarValue_alike tag text).andThen fun value hvalue => ?_
    have hscalar : document.scalar? take node =
        if value = .null then none else take value text := by
      rw [Document.scalar?, hfound]
      simp only [hvalue, Option.bind_some]
    split
    · exact .pure ⟨_, hscalar.symm, rfl⟩
    · rename_i hnull
      rw [if_neg hnull] at hscalar
      split
      · rename_i a htake
        exact .pure ⟨_, (hscalar.trans htake).symm, rfl⟩
      · rename_i htake
        exact .after _ fun _ => .pure ⟨_, (hscalar.trans htake).symm, rfl⟩

/-! ### Values of nodes -/

/-- The text of a scalar. -/
def Document.text? (document : Document) : Node → Option Raw :=
  document.scalar? fun value text =>
    match value with
    | .text s => some s
    | _ => some (Raw.ofString text)

/-- The integer of a scalar. -/
def Document.int? (document : Document) : Node → Option Int :=
  document.scalar? fun value _ => value.toInt?

/-- The truth value of a scalar. -/
def Document.bool? (document : Document) : Node → Option Bool :=
  document.scalar? fun value _ => value.toBool?

/-- The texts of a sequence; null stands for none. -/
def Document.texts? (document : Document) (node : Node) : Option (List Raw) :=
  match document.target? node with
  | some (.sequence _ _ items) => some (items.filterMap document.text?)
  | some (.scalar _ tag text) => if Value.ofTagged? tag text = some .null then some [] else none
  | _ => none

theorem readText_alike (document : Document) (node : Node) :
    Alike (Constant (· = document.text? node)) fun _ : ι => readText document node :=
  readScalar_alike document "string" _ node

theorem mapM_alike {read : α → Reader β} {value : α → β}
    (h : ∀ a, Alike (Constant (· = value a)) fun _ : ι => read a) (items : List α) :
    Alike (Constant (· = items.map value)) fun _ : ι => items.mapM read := by
  induction items with
  | nil => exact .pure ⟨[], rfl, rfl⟩
  | cons a items ih =>
    rw [List.mapM_cons]
    refine (h a).andThen fun b hb => ih.andThen fun more hmore => .pure ⟨_, ?_, rfl⟩
    rw [hb, hmore, List.map_cons]

/-- A list of texts is read, or the list that is there stays. -/
theorem readTexts_alike (document : Document) (node : Node) (values : ι → List Raw) :
    Alike (· = fun i => (document.texts? node).getD (values i))
      fun i => readTexts document node (values i) := by
  refine .visit fun found hfound => ?_
  cases found with
  | mapping | «alias» =>
    refine .after _ fun _ => .pure ?_
    simp [Document.texts?, hfound]
  | sequence line tag items =>
    refine (mapM_alike (readText_alike document) items).andThen fun texts htexts => .pure ?_
    have hitems : document.texts? node = some (texts.filterMap id) := by
      rw [Document.texts?, hfound, htexts, List.filterMap_map]
      rfl
    rw [hitems]
    rfl
  | scalar line tag text =>
    refine (scalarValue_alike tag text).andThen fun value hvalue => ?_
    split
    · refine .pure ?_
      simp [Document.texts?, hfound, hvalue]
    · rename_i hnull
      have hsome : value ≠ .null := hnull
      refine .after _ fun _ => .pure ?_
      simp [Document.texts?, hfound, hvalue, hsome]

end Alike

/-! ### Structures -/

/-- A node gives a key a value: it stands for a mapping with the key, or for one that merges in a
node that gives it. -/
inductive Document.Gives (document : Document) (name : String) (value : Node) : Node → Prop
  | key {node : Node} {line : Nat} {tag : String} {pairs : List (Node × Node)} {key : Node}
      (hnode : document.target? node = some (.mapping line tag pairs)) (hmem : (key, value) ∈ pairs)
      (hmerge : key.isMerge = false) (hname : document.text? key = some (Raw.ofString name)) :
      Gives document name value node
  | merged {node : Node} {line : Nat} {tag : String} {pairs : List (Node × Node)}
      {sources : List Node} {source : Node}
      (hnode : document.target? node = some (.mapping line tag pairs))
      (hsources : mergeSources? pairs = some sources) (hmem : source ∈ sources)
      (h : Gives document name value source) : Gives document name value node

section Structure

variable {ι σ : Type} {good : (ι → σ) → Prop} {target : String} {fields : List (NamedField σ)}
  {document : Document}

/-- Reading the fields of a structure at the values that a node gives keeps what is good. -/
def FieldsAlike (good : (ι → σ) → Prop) (fields : List (NamedField σ)) (document : Document)
    (node : Node) : Prop :=
  ∀ field ∈ fields, ∀ value, document.Gives field.name value node →
    ∀ held, good held → Alike good fun i => field.read document value (held i)

theorem readFields_alike {node : Node} {line : Nat} {tag : String} {all : List (Node × Node)}
    (hnode : document.target? node = some (.mapping line tag all))
    (h : FieldsAlike good fields document node) {pairs : List (Node × Node)}
    (hpairs : ∀ pair ∈ pairs, pair ∈ all) (merged : Option (List Value)) (done : List String)
    {held : ι → σ} (hheld : good held) :
    Alike (fun results => ∃ values left, good values ∧ results = fun i => (values i, left))
      fun i => readFields target fields document merged done pairs (held i) := by
  induction pairs generalizing merged done held with
  | nil => exact .pure ⟨held, merged, hheld, rfl⟩
  | cons pair pairs ih =>
    obtain ⟨key, value⟩ := pair
    have hmem : (key, value) ∈ all := hpairs _ List.mem_cons_self
    have hrest := ih fun pair hpair => hpairs pair (List.mem_cons_of_mem _ hpair)
    simp only [readFields]
    split
    · exact hrest merged done hheld
    · rename_i hmerge
      refine (readText_alike document key).andThen fun name? hname => ?_
      split
      · exact hrest merged done hheld
      · rename_i name
        split
        · exact hrest merged done hheld
        · split
          · exact hrest _ done hheld
          · rename_i field hfind
            split
            · exact .after _ fun _ => hrest _ done hheld
            · have hfield := List.mem_of_find?_eq_some hfind
              have hgives : document.Gives field.name value node := by
                refine .key hnode hmem (Bool.eq_false_iff.mpr hmerge) ?_
                have hnamed := List.find?_some hfind
                rw [← hname, of_decide_eq_true hnamed]
              refine (h field hfield value hgives held hheld).bind fun values hvalues => ?_
              exact hrest _ _ hvalues

theorem readPairs_alike (fuel : Nat) :
    (∀ {node : Node} {line : Nat} {tag : String} {pairs : List (Node × Node)},
      document.target? node = some (.mapping line tag pairs) →
      FieldsAlike good fields document node → ∀ {held : ι → σ}, good held →
        Alike good fun i => readPairs target fields document fuel pairs (held i)) ∧
    ∀ {sources : List Node}, (∀ source ∈ sources, FieldsAlike good fields document source) →
      ∀ {held : ι → σ}, good held →
        Alike good fun i => readMerged target fields document fuel sources (held i) := by
  induction fuel with
  | zero => exact ⟨fun _ _ _ _ => .throw _, fun _ _ _ => .throw _⟩
  | succ fuel ih =>
    constructor
    · intro node line tag pairs hnode h held hheld
      simp only [readPairs]
      refine .after _ fun repeated => ?_
      split
      · exact .pure hheld
      · refine .after _ fun merged => ?_
        refine (readFields_alike hnode h (fun _ => id) merged [] hheld).bind ?_
        rintro _ ⟨values, left, hvalues, rfl⟩
        dsimp only
        refine .after _ fun _ => ?_
        cases hsources : mergeSources? pairs with
        | none => exact .pure hvalues
        | some sources =>
          have hmerged : ∀ source ∈ sources, FieldsAlike good fields document source :=
            fun source hsource field hfield value hvalue =>
              h field hfield value (.merged hnode hsources hsource hvalue)
          refine .after _ fun started => ?_
          refine (ih.2 hmerged hvalues).bind fun results hresults => ?_
          split
          · exact .after _ fun _ => .pure hresults
          · exact .pure hresults
    · intro sources h held hheld
      cases sources with
      | nil => exact .pure hheld
      | cons source sources =>
        obtain ⟨hsource, hrest⟩ := List.forall_mem_cons.mp h
        have hread : Alike good fun i => document.visitSource source fun pairs =>
            readPairs target fields document fuel pairs (held i) :=
          .visitSource fun line tag pairs hfound => ih.1 hfound hsource hheld
        exact hread.bind fun values hvalues => ih.2 hrest hvalues

/-- A structure is read alike over all that it may hold, if its fields are at the values that the
node gives them. -/
theorem readStructure_alike {node : Node} (h : FieldsAlike good fields document node)
    {held : ι → σ} (hheld : good held) :
    Alike good fun i => readStructure target fields document node (held i) := by
  refine .visit fun found hfound => ?_
  cases found with
  | mapping line tag pairs => exact (readPairs_alike _).1 hfound h hheld
  | sequence | «alias» => exact .after _ fun _ => .pure hheld
  | scalar line tag text =>
    refine .after _ fun value => ?_
    split
    · exact .pure hheld
    · exact .after _ fun _ => .pure hheld

theorem read_empty {bytes : Bytes} (hinput : Document.ofInput? (readInput bytes) = some none)
    (held : σ) : read target fields held bytes = .ok held := by
  simp only [read, hinput]

/-- A text that can be read over something can be read over anything else, alike. -/
theorem read_alike {bytes : Bytes}
    (hinput : Document.ofInput? (readInput bytes) = some (some document))
    (h : FieldsAlike good fields document document.root) {held : ι → σ} (hheld : good held)
    {i : ι} {value : σ} (hread : read target fields (held i) bytes = .ok value) :
    ∃ values, good values ∧ ∀ i, read target fields (held i) bytes = .ok (values i) := by
  have hreading : Alike good fun i => count >>= fun _ =>
      readStructure target fields document document.root (held i) :=
    .after _ fun _ => readStructure_alike h hheld
  simp only [read, hinput] at hread ⊢
  obtain ⟨e, herror⟩ | ⟨values, state, hvalues, hrun⟩ := hreading {}
  · rw [herror] at hread
    cases hread
  · refine ⟨values, hvalues, fun j => ?_⟩
    rw [hrun] at hread ⊢
    -- the same state is left for all, so either all of them have errors or none has
    cases herrors : state.errors.isEmpty with
    | true =>
      show (if state.errors.isEmpty then _ else _) = _
      rw [herrors]
      rfl
    | false =>
      simp only [bind, Except.bind, herrors] at hread
      cases hread

end Structure

end InlineAudit.Yaml
