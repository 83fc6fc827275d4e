import InlineAudit.Proofs.Text.Spacing
import InlineAudit.Proofs.Yaml.Reading

/-!
What takes effect when a structure is read. Where nothing is merged in and no error is noted, every
field whose key stands in a mapping has been read from the value there, and no other field has
disturbed what came of it.
-/

namespace InlineAudit

open Text

namespace Yaml

/-! ### Readings without errors -/

section Settles

variable {α β : Type} {always clean : α → Prop} {always' clean' : β → Prop} {read : Reader α}
  {more : α → Reader β}

/-- A reader that starts when no keys are remembered leaves it so, and its value is always as the
first property says. If there is no error by its end, there was none before, and the value is as the
second property says. -/
def Settles (always clean : α → Prop) (read : Reader α) : Prop :=
  ∀ s a s', s.merged = none → read.run s = .ok (a, s') →
    s'.merged = none ∧ always a ∧ (s'.errors = [] → s.errors = [] ∧ clean a)

theorem Settles.pure {a : α} (halways : always a) (hclean : clean a) :
    Settles always clean (Pure.pure a) := by
  intro s b s' hmerged hrun
  cases hrun
  exact ⟨hmerged, halways, fun herrors => ⟨herrors, hclean⟩⟩

theorem Settles.throw (e : ReadError) :
    Settles always clean (MonadExcept.throw e : Reader α) :=
  fun _ _ _ _ hrun => nomatch hrun

theorem Settles.mono {always₁ clean₁ : α → Prop} (h : Settles always clean read)
    (halways : ∀ a, always a → always₁ a) (hclean : ∀ a, always a → clean a → clean₁ a) :
    Settles always₁ clean₁ read := by
  intro s a s' hmerged hrun
  obtain ⟨hmerged', ha, herrors⟩ := h s a s' hmerged hrun
  exact ⟨hmerged', halways a ha, fun hnone => (herrors hnone).imp_right (hclean a ha)⟩

theorem Settles.bind (h : Settles always clean read)
    (hmore : ∀ a, always a → Settles always' (fun b => clean a → clean' b) (more a)) :
    Settles always' clean' (read >>= more) := by
  intro s b s' hmerged hrun
  rw [StateT.run_bind] at hrun
  cases hread : read.run s with
  | error e =>
    rw [hread] at hrun
    cases hrun
  | ok result =>
    obtain ⟨a, middle⟩ := result
    rw [hread] at hrun
    obtain ⟨hmiddle, ha, hbefore⟩ := h s a middle hmerged hread
    obtain ⟨hmerged', hb, hbehind⟩ := hmore a ha middle b s' hmiddle hrun
    refine ⟨hmerged', hb, fun herrors => ?_⟩
    obtain ⟨hnone, himp⟩ := hbehind herrors
    exact (hbefore hnone).imp_right himp

theorem Settles.andThen (h : Settles always clean read)
    (hmore : ∀ a, always a → Settles always' clean' (more a)) :
    Settles always' clean' (read >>= more) :=
  h.bind fun a ha => (hmore a ha).mono (fun _ => id) fun _ _ hb _ => hb

/-- A step of which nothing more is of interest. -/
theorem Settles.after (h : Settles always clean read)
    (hmore : ∀ a, Settles always' clean' (more a)) : Settles always' clean' (read >>= more) :=
  h.andThen fun a _ => hmore a

/-- What is known of the value of a reader alone. -/
theorem Settles.of_alike {good : (Unit → α) → Prop} (h : Settles always clean read)
    (hread : Alike good fun _ => read) : Settles (fun a => good fun _ => a) clean read := by
  intro s a s' hmerged hrun
  obtain ⟨hmerged', -, herrors⟩ := h s a s' hmerged hrun
  refine ⟨hmerged', ?_, herrors⟩
  obtain ⟨e, herror⟩ | ⟨values, state, hgood, hvalues⟩ := hread s
  · cases (herror ()).symm.trans hrun
  · obtain ⟨rfl, -⟩ := Prod.mk.inj (Except.ok.inj ((hvalues ()).symm.trans hrun))
    exact hgood

/-- Nothing is said about the value. -/
def Anything (_ : α) : Prop := True

theorem settles_get : Settles Anything Anything (get : Reader ReadState) := by
  intro s a s' hmerged hrun
  cases hrun
  exact ⟨hmerged, trivial, fun herrors => ⟨herrors, trivial⟩⟩

theorem settles_follow (following : List Nat) : Settles Anything Anything
    (modify fun s => { s with following := following } : Reader Unit) := by
  intro s a s' hmerged hrun
  cases hrun
  exact ⟨hmerged, trivial, fun herrors => ⟨herrors, trivial⟩⟩

theorem settles_setMerged : Settles Anything Anything (setMerged none) := by
  intro s a s' hmerged hrun
  cases hrun
  exact ⟨rfl, trivial, fun herrors => ⟨herrors, trivial⟩⟩

/-- Counting changes two numbers, or fails. -/
theorem count_run (s : ReadState) : count.run s = .error .malformed ∨
    ∃ nodes aliased, count.run s = .ok ((), { s with nodes := nodes, aliased := aliased }) := by
  simp only [count, StateT.run_bind, StateT.run_get, pure_bind]
  generalize (if s.following.isEmpty then s.aliased else s.aliased + 1) = aliased
  split
  · exact .inl rfl
  · exact .inr ⟨_, _, rfl⟩

theorem settles_count : Settles Anything Anything count := by
  intro s a s' hmerged hrun
  obtain herror | ⟨nodes, aliased, hcount⟩ := count_run s
  · cases herror.symm.trans hrun
  · obtain ⟨-, rfl⟩ := Prod.mk.inj (Except.ok.inj (hcount.symm.trans hrun))
    exact ⟨hmerged, trivial, fun herrors => ⟨herrors, trivial⟩⟩

/-- Behind a noted error nothing is clean. -/
theorem settles_note (error : TypeError) : Settles Anything (fun _ => False) (note error) := by
  intro s a s' hmerged hrun
  cases hrun
  exact ⟨hmerged, trivial, fun herrors => by simp at herrors⟩

/-- Repeated keys are errors. -/
theorem settles_noteRepeated (pairs : List (Node × Node)) :
    Settles Anything (· = false) (noteRepeated pairs) := by
  intro s a s' hmerged hrun
  cases hrun
  refine ⟨hmerged, trivial, fun herrors => ?_⟩
  obtain ⟨hnone, hrepeated⟩ := List.append_eq_nil_iff.mp herrors
  refine ⟨hnone, ?_⟩
  rw [hrepeated]
  rfl

theorem settles_takeMerged : Settles (· = none) Anything takeMerged := by
  intro s a s' hmerged hrun
  cases hrun
  exact ⟨rfl, hmerged, fun herrors => ⟨herrors, trivial⟩⟩

/-! ### Nodes -/

theorem Settles.visit {document : Document} {node : Node} {read : Node → Reader α}
    (h : ∀ target, document.target? node = some target → Settles always clean (read target)) :
    Settles always clean (document.visit node read) := by
  refine settles_count.after fun _ => ?_
  cases node with
  | scalar | sequence | mapping => exact h _ rfl
  | «alias» line name serial number =>
    refine settles_get.after fun state => ?_
    cases hfind : document.find? number with
    | none => exact .throw _
    | some target =>
      dsimp only
      split
      · exact .throw _
      · refine (settles_follow _).after fun _ => settles_count.after fun _ => ?_
        exact (h target hfind).bind fun a ha => (settles_follow _).after fun _ => .pure ha id

theorem settles_reject (target : String) (node : Node) :
    Settles Anything Anything (node.reject target) := by
  have hnote : ∀ error, Settles Anything Anything (note error) := fun error =>
    (settles_note error).mono (fun _ => id) fun _ _ => False.elim
  cases node with
  | scalar | sequence => exact hnote _
  | «alias» => exact .pure trivial trivial
  | mapping line tag pairs =>
    refine (settles_noteRepeated pairs).after fun repeated => ?_
    split
    · exact hnote _
    · exact .pure trivial trivial

theorem settles_scalarValue (tag text : String) :
    Settles Anything Anything (scalarValue tag text) := by
  rw [scalarValue]
  cases Value.ofTagged? tag text with
  | none => exact .throw _
  | some value => exact .pure trivial trivial

theorem settles_readScalar (document : Document) (target : String)
    (take : Value → String → Option α) (node : Node) :
    Settles (· = document.scalar? take node) Anything (readScalar target take document node) := by
  have hread : Settles Anything Anything (readScalar target take document node) := by
    refine .visit fun found hfound => ?_
    cases found with
    | sequence | mapping | «alias» =>
      exact (settles_reject _ _).after fun _ => .pure trivial trivial
    | scalar line tag text =>
      refine (settles_scalarValue tag text).after fun value => ?_
      split
      · exact .pure trivial trivial
      · split
        · exact .pure trivial trivial
        · exact (settles_reject _ _).after fun _ => .pure trivial trivial
  refine (hread.of_alike (readScalar_alike document target take node)).mono ?_ fun _ _ => id
  rintro a ⟨value, rfl, hvalue⟩
  exact congrFun hvalue ()

theorem settles_readText (document : Document) (node : Node) :
    Settles (· = document.text? node) Anything (readText document node) :=
  settles_readScalar document "string" _ node

theorem settles_mapM {read : α → Reader β} (h : ∀ a, Settles Anything Anything (read a))
    (items : List α) : Settles Anything Anything (items.mapM read) := by
  induction items with
  | nil => exact .pure trivial trivial
  | cons a items ih =>
    rw [List.mapM_cons]
    exact (h a).after fun _ => ih.after fun _ => .pure trivial trivial

theorem settles_readTexts (document : Document) (node : Node) (held : List Raw) :
    Settles (· = (document.texts? node).getD held) Anything (readTexts document node held) := by
  have hread : Settles Anything Anything (readTexts document node held) := by
    refine .visit fun found hfound => ?_
    cases found with
    | mapping | «alias» => exact (settles_reject _ _).after fun _ => .pure trivial trivial
    | sequence line tag items =>
      have hitem : ∀ item, Settles Anything Anything (readText document item) := fun item =>
        (settles_readText document item).mono (fun _ _ => trivial) fun _ _ => id
      exact (settles_mapM hitem items).after fun _ => .pure trivial trivial
    | scalar line tag text =>
      refine (settles_scalarValue tag text).after fun value => ?_
      split
      · exact .pure trivial trivial
      · exact (settles_reject _ _).after fun _ => .pure trivial trivial
  refine (hread.of_alike (readTexts_alike document node fun _ => held)).mono ?_ fun _ _ => id
  exact fun texts htexts => congrFun htexts ()

end Settles

/-! ### Structures -/

/-- A node merges nothing in: it does not stand for a mapping that does. -/
def Document.MergesNothing (document : Document) (node : Node) : Prop :=
  ∀ line tag pairs, document.target? node = some (.mapping line tag pairs) →
    mergeSources? pairs = none

section Structure

variable {σ : Type} {post : String → Node → σ → Prop} {target : String}
  {fields : List (NamedField σ)} {document : Document} {node : Node}

/-- Every field that a node gives a value to is read from that value, and leaves what came of the
other fields. -/
def FieldsSettle (post : String → Node → σ → Prop) (fields : List (NamedField σ))
    (document : Document) (node : Node) : Prop :=
  ∀ field ∈ fields, ∀ value, document.Gives field.name value node → ∀ held,
    Settles Anything
      (fun result => post field.name value result ∧
        ∀ name other, name ≠ field.name → post name other held → post name other result)
      (field.read document value held)

/-- What came of names that are done is kept, and what pairs say of fields has come about. -/
structure Takes (post : String → Node → σ → Prop) (fields : List (NamedField σ))
    (document : Document) (done : List String) (pairs : List (Node × Node)) (held result : σ) :
    Prop where
  kept : ∀ name ∈ done, ∀ value, post name value held → post name value result
  said : ∀ field ∈ fields, ∀ pair ∈ pairs, pair.1.isMerge = false →
    document.text? pair.1 = some (Raw.ofString field.name) → post field.name pair.2 result

variable {done : List String} {pairs : List (Node × Node)} {key value : Node} {held result : σ}

/-- A pair that is about no field says nothing. -/
theorem Takes.skip (h : Takes post fields document done pairs held result)
    (hnone : key.isMerge = false →
      ∀ field ∈ fields, document.text? key ≠ some (Raw.ofString field.name)) :
    Takes post fields document done ((key, value) :: pairs) held result where
  kept := h.kept
  said field hfield pair hpair hmerge hname := by
    obtain rfl | hpair := List.mem_cons.mp hpair
    · exact absurd hname (hnone hmerge field hfield)
    · exact h.said field hfield pair hpair hmerge hname

/-- A pair about a field is read, and the field is done then. -/
theorem Takes.step {field : NamedField σ} {read : σ}
    (h : Takes post fields document (field.name :: done) pairs read result)
    (hfresh : field.name ∉ done)
    (hname : document.text? key = some (Raw.ofString field.name))
    (hset : post field.name value read)
    (hkept : ∀ name other, name ≠ field.name → post name other held → post name other read) :
    Takes post fields document done ((key, value) :: pairs) held result where
  kept other hother node hpost := by
    have hne : other ≠ field.name := by
      rintro rfl
      exact hfresh hother
    exact h.kept other (List.mem_cons_of_mem _ hother) node (hkept other node hne hpost)
  said other hother pair hpair hmerge hsaid := by
    obtain rfl | hpair := List.mem_cons.mp hpair
    · have hsame : field.name = other.name :=
        Raw.ofString_injective (Option.some.inj (hname.symm.trans hsaid))
      rw [← hsame]
      exact h.kept field.name List.mem_cons_self value hset
    · exact h.said other hother pair hpair hmerge hsaid

/-- The induction is on the pairs that are left. No field is read twice without an error. -/
theorem readFields_settles {line : Nat} {tag : String} {all : List (Node × Node)}
    (hnode : document.target? node = some (.mapping line tag all))
    (h : FieldsSettle post fields document node) (hpairs : ∀ pair ∈ pairs, pair ∈ all)
    (done : List String) (held : σ) :
    Settles (fun result => result.2 = none)
      (fun result => Takes post fields document done pairs held result.1)
      (readFields target fields document none done pairs held) := by
  induction pairs generalizing done held with
  | nil => exact .pure rfl ⟨fun _ _ _ => id, fun _ _ _ hpair => absurd hpair List.not_mem_nil⟩
  | cons pair pairs ih =>
    obtain ⟨key, value⟩ := pair
    have hmem : (key, value) ∈ all := hpairs _ List.mem_cons_self
    have hrest := ih fun pair hpair => hpairs pair (List.mem_cons_of_mem _ hpair)
    simp only [readFields]
    split
    · rename_i hmerge
      refine (hrest done held).mono (fun _ => id) fun result _ htakes => htakes.skip fun hnot => ?_
      cases hmerge.symm.trans hnot
    · rename_i hmerge
      refine (settles_readText document key).andThen fun name? hname => ?_
      split
      · refine (hrest done held).mono (fun _ => id) fun result _ htakes => htakes.skip ?_
        intro _ _ _ hsome
        cases hname.trans hsome
      · rename_i name
        rw [if_neg (by simp), Option.map_none]
        split
        · rename_i hfind
          refine (hrest done held).mono (fun _ => id) fun result _ htakes => htakes.skip ?_
          intro _ field hfield hsome
          rw [← hname, Option.some.injEq] at hsome
          exact List.find?_eq_none.mp hfind field hfield (decide_eq_true hsome.symm)
        · rename_i field hfind
          have hfield := List.mem_of_find?_eq_some hfind
          have hfound := List.find?_some hfind
          have hnamed : Raw.ofString field.name = name := of_decide_eq_true hfound
          have hkey : document.text? key = some (Raw.ofString field.name) := by
            rw [← hname, hnamed]
          split
          · refine (settles_note _).bind fun _ _ => ?_
            exact (hrest done held).mono (fun _ => id) fun _ _ _ hnever => hnever.elim
          · rename_i hfresh
            have hgives : document.Gives field.name value node :=
              .key hnode hmem (Bool.eq_false_iff.mpr hmerge) hkey
            refine (h field hfield value hgives held).bind fun read _ => ?_
            refine (hrest (field.name :: done) read).mono (fun _ => id) ?_
            intro result _ htakes hread
            exact htakes.step (mt List.contains_iff_mem.mpr hfresh) hkey hread.1 hread.2

theorem readPairs_settles {line : Nat} {tag : String}
    (hnode : document.target? node = some (.mapping line tag pairs))
    (hplain : mergeSources? pairs = none) (h : FieldsSettle post fields document node)
    (fuel : Nat) (held : σ) :
    Settles Anything (fun result => Takes post fields document [] pairs held result)
      (readPairs target fields document fuel pairs held) := by
  cases fuel with
  | zero => exact .throw _
  | succ fuel =>
    simp only [readPairs]
    refine (settles_noteRepeated pairs).bind fun repeated _ => ?_
    split
    · rename_i hrepeated
      exact .pure trivial fun hnone => absurd hnone (by simp [hrepeated])
    · refine settles_takeMerged.bind fun merged hmerged => ?_
      subst hmerged
      refine (readFields_settles hnode h (fun _ => id) [] held).bind fun result hresult => ?_
      obtain ⟨value, left⟩ := result
      obtain rfl : left = none := hresult
      rw [hplain]
      exact settles_setMerged.after fun _ => .pure trivial fun htakes _ _ => htakes

/-- Reading a structure that merges nothing in reads every field whose key is there. -/
theorem readStructure_settles (hplain : document.MergesNothing node)
    (h : FieldsSettle post fields document node) (held : σ) :
    Settles Anything
      (fun result => ∀ field ∈ fields, ∀ value, document.Gives field.name value node →
        post field.name value result)
      (readStructure target fields document node held) := by
  refine .visit fun found hfound => ?_
  have hnothing : (∀ line tag pairs, found ≠ .mapping line tag pairs) →
      ∀ name value, ¬document.Gives name value node := by
    intro hnone name value hgives
    cases hgives with
    | key hnode => exact hnone _ _ _ (Option.some.inj (hfound.symm.trans hnode))
    | merged hnode => exact hnone _ _ _ (Option.some.inj (hfound.symm.trans hnode))
  cases found with
  | mapping line tag pairs =>
    refine (readPairs_settles hfound (hplain _ _ _ hfound) h _ held).mono (fun _ => id) ?_
    intro result _ htakes field hfield value hgives
    cases hgives with
    | key hnode hmem hmerge hname =>
      obtain ⟨-, -, rfl⟩ := Node.mapping.inj (Option.some.inj (hfound.symm.trans hnode))
      exact htakes.said field hfield _ hmem hmerge hname
    | merged hnode hsources => cases (hplain _ _ _ hnode).symm.trans hsources
  | sequence | «alias» =>
    refine (settles_reject _ _).after fun _ => .pure trivial fun field _ value hgives => ?_
    exact absurd hgives (hnothing (fun _ _ _ => nofun) _ _)
  | scalar line tag text =>
    have hscalar : ∀ field ∈ fields, ∀ value, document.Gives field.name value node →
        post field.name value held := fun field _ value hgives =>
      absurd hgives (hnothing (fun _ _ _ => nofun) _ _)
    refine (settles_scalarValue tag text).after fun value => ?_
    split
    · exact .pure trivial hscalar
    · exact (settles_reject _ _).after fun _ => .pure trivial hscalar

/-- What a text that merges nothing in says at a key has come of it. -/
theorem read_settles {bytes : Bytes}
    (hinput : Document.ofInput? (readInput bytes) = some (some document))
    (hplain : document.MergesNothing document.root)
    (h : FieldsSettle post fields document document.root)
    (hread : read target fields held bytes = .ok result) {field : NamedField σ}
    (hfield : field ∈ fields)
    (hgives : document.Gives field.name value document.root) : post field.name value result := by
  have hreading : Settles Anything
      (fun result => ∀ field ∈ fields, ∀ value,
        document.Gives field.name value document.root → post field.name value result)
      (count >>= fun _ => readStructure target fields document document.root held) :=
    settles_count.after fun _ => readStructure_settles hplain h held
  simp only [read, hinput] at hread
  cases hrun : (count >>= fun _ =>
      readStructure target fields document document.root held).run {} with
  | error e =>
    rw [hrun] at hread
    cases hread
  | ok outcome =>
    obtain ⟨found, state⟩ := outcome
    rw [hrun] at hread
    obtain ⟨-, -, hclean⟩ := hreading {} found state rfl hrun
    cases herrors : state.errors.isEmpty with
    | true =>
      simp only [bind, Except.bind, herrors] at hread
      cases hread
      exact (hclean (List.isEmpty_iff.mp herrors)).2 field hfield value hgives
    | false =>
      simp only [bind, Except.bind, herrors] at hread
      cases hread

end Structure

end Yaml

end InlineAudit
