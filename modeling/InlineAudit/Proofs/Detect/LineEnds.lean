import InlineAudit.Proofs.Detect.Attribution
import InlineAudit.Proofs.Detect.Inspection
import InlineAudit.Proofs.Detect.StrayBytes
import InlineAudit.Proofs.Text.Returns

/-!
Line ends. What is found in a content does not depend on whether its lines end with a line feed
alone or with a carriage return before it. A recogniser takes no notice of the returns: it sees
nothing at either character and passes by both as white space or within a payload, where neither
is a part of what is looked for. For recognisers that are put together from readers it is enough
that each reader goes on at the same place with the returns as without.
-/

namespace InlineAudit

open Detect Text

namespace Detect

/-! ### Readers -/

/-- A reader goes on at a later place of a text, and at the same one if returns are put in. -/
structure Skips (step : List Char → Option (List Char)) : Prop where
  suffix : ∀ {text rest}, step text = some rest → rest <:+ text
  returns : ∀ text, step (withReturns text) = (step text).map withReturns

/-- The same for a reader of values. Where returns are put in, it is told another value for the
one it was told before. -/
structure Reads {α : Type} (read : List Char → Option (α × List Char)) (told : α → α) : Prop where
  suffix : ∀ {text value rest}, read text = some (value, rest) → rest <:+ text
  returns : ∀ text, read (withReturns text) =
    (read text).map fun found => (told found.1, withReturns found.2)

section Combined

variable {α β : Type} {step next : List Char → Option (List Char)}
  {read : List Char → Option (α × List Char)} {told : α → α}

theorem Skips.bind (hstep : Skips step) (hnext : Skips next) :
    Skips fun text => (step text).bind next where
  suffix h := by
    obtain ⟨middle, hmiddle, hrest⟩ := Option.bind_eq_some_iff.mp h
    exact (hnext.suffix hrest).trans (hstep.suffix hmiddle)
  returns text := by
    simp only [hstep.returns, Option.bind_map, Option.map_bind, Function.comp_def, hnext.returns]

theorem Skips.reads (hstep : Skips step) (hread : Reads read told) :
    Reads (fun text => (step text).bind read) told where
  suffix h := by
    obtain ⟨middle, hmiddle, hrest⟩ := Option.bind_eq_some_iff.mp h
    exact (hread.suffix hrest).trans (hstep.suffix hmiddle)
  returns text := by
    simp only [hstep.returns, Option.bind_map, Option.map_bind, Function.comp_def, hread.returns]

/-- What is read if it is there and left out otherwise. -/
theorem Skips.optional (hstep : Skips step) : Skips fun text => some ((step text).getD text) where
  suffix {text rest} h := by
    obtain rfl := Option.some.inj h
    cases hread : step text with
    | none => exact List.suffix_refl text
    | some rest => exact hstep.suffix hread
  returns text := by
    rw [hstep.returns, Option.map_some]
    cases step text <;> rfl

theorem Skips.firstOf {names : List β} {step : β → List Char → Option (List Char)}
    (hstep : ∀ name ∈ names, Skips (step name)) :
    Skips fun text => names.findSome? (step · text) where
  suffix h := by
    obtain ⟨name, hname, hrest⟩ := List.exists_of_findSome?_eq_some h
    exact (hstep name hname).suffix hrest
  returns text := by
    rw [List.map_findSome?]
    exact findSome?_congr fun name hname => (hstep name hname).returns text

/-- A reader of something that is always told the same. -/
theorem Skips.value (hstep : Skips step) (value : α) :
    Reads (fun text => (step text).map (value, ·)) id where
  suffix h := by
    obtain ⟨rest, hrest, heq⟩ := Option.map_eq_some_iff.mp h
    obtain ⟨-, rfl⟩ := Prod.mk.inj heq
    exact hstep.suffix hrest
  returns text := by
    simp only [hstep.returns, Option.map_map, Function.comp_def, id]

theorem Reads.value (hread : Reads read id) (f : α → β) :
    Reads (fun text => (read text).map fun found => (f found.1, found.2)) id where
  suffix h := by
    obtain ⟨⟨value, rest⟩, hrest, heq⟩ := Option.map_eq_some_iff.mp h
    obtain ⟨-, rfl⟩ := Prod.mk.inj heq
    exact hread.suffix hrest
  returns text := by
    simp only [hread.returns, Option.map_map, Function.comp_def, id]

end Combined

theorem skipBlanks_skips : Skips fun text => some (skipBlanks text) where
  suffix h := by
    obtain rfl := Option.some.inj h
    exact List.dropWhile_suffix isBlank
  returns text := by rw [skipBlanks_withReturns, Option.map_some]

theorem readBy_skips {fold : Char → Char} {word : List Char} (hreturn : fold '\r' ∉ word)
    (hfeed : fold '\n' ∉ word) : Skips (readBy fold word) where
  suffix h := by
    obtain ⟨taken, rfl, -⟩ := readBy_eq_some_iff.mp h
    exact List.suffix_append taken _
  returns text := by
    induction word generalizing text with
    | nil => rfl
    | cons w word ih =>
        cases text with
        | nil => rfl
        | cons c text =>
            by_cases hc : c = '\n'
            · simp [hc, readBy, List.ne_of_not_mem_cons hreturn, List.ne_of_not_mem_cons hfeed]
            · rw [withReturns_cons hc, readBy, readBy, ih (List.not_mem_of_not_mem_cons hreturn)
                (List.not_mem_of_not_mem_cons hfeed)]
              split <;> rfl

theorem after?_skips {word : List Char} (hreturn : '\r' ∉ word) (hfeed : '\n' ∉ word) :
    Skips (after? word) := by
  rw [funext (after?_eq_readBy word)]
  exact readBy_skips hreturn hfeed

/-- A sign with white space before it or none. -/
theorem sign_skips {c : Char} (hreturn : '\r' ≠ c) (hfeed : '\n' ≠ c) :
    Skips fun text => after? [c] (skipBlanks text) :=
  skipBlanks_skips.bind (after?_skips (by simpa using hreturn) (by simpa using hfeed))

theorem cutAt?_reads {sep : Char} (hreturn : sep ≠ '\r') (hfeed : sep ≠ '\n') :
    Reads (cutAt? sep) withReturns where
  suffix h := by
    obtain ⟨-, rfl⟩ := cutAt?_eq_some_iff.mp h
    exact (List.suffix_cons sep _).trans (List.suffix_append _ _)
  returns := cutAt?_withReturns hreturn hfeed

theorem attributePayload?_reads {close : Char} (hreturn : '\r' ≠ close) (hfeed : '\n' ≠ close) :
    Reads (attributePayload? close) withReturns where
  suffix h := by
    obtain ⟨⟨rest, rfl, hclosed⟩, -⟩ := attributePayload?_first h
    have hrest := (sign_skips hreturn hfeed).suffix hclosed
    exact hrest.trans ((List.suffix_cons ')' rest).trans (List.suffix_append _ _))
  returns text := by
    have hclosed : ∀ text, closedBy? close (withReturns text) =
        (closedBy? close text).map withReturns := (sign_skips hreturn hfeed).returns
    induction text with
    | nil => rfl
    | cons c text ih =>
        by_cases hc : c = '\n'
        · simp [hc, attributePayload?, ih, Function.comp_def]
        · rw [withReturns_cons hc, attributePayload?, attributePayload?, ih, hclosed]
          by_cases hparen : c = ')'
          · rw [if_pos hparen, if_pos hparen]
            cases closedBy? close text with
            | none => simp [withReturns_cons hc, Function.comp_def]
            | some after => rfl
          · simp [hparen, withReturns_cons hc, Function.comp_def]

theorem ruleNumber?_reads : Reads ruleNumber? id where
  suffix h := by
    obtain ⟨rfl, -⟩ := ruleNumber?_eq_some_iff.mp h
    exact List.suffix_append _ _
  returns text := by
    rw [ruleNumber?, ruleNumber?, takeWhile_withReturns (by decide) (by decide),
      dropWhile_withReturns (by decide)]
    split <;> rfl

/-! ### Recognisers -/

/-- The value that is read at the head of a text, with the number of characters read. -/
def sized {α : Type} (read : List Char → Option (α × List Char)) (text : List Char) :
    Option (α × Nat) :=
  (read text).map fun found => (found.1, text.length - found.2.length)

/-- A recogniser takes no notice of carriage returns before line feeds. -/
structure BlindToReturns {α : Type} (see : Recogniser α) (told : α → α) : Prop where
  unseen : ∀ c ∈ ['\r', '\n'], ∀ before rest, see before (c :: rest) = none
  sight : ∀ before text, see before (withReturns text) =
    (see before text).map fun found => (told found.1, (withReturns (text.take found.2)).length)

theorem Reads.sized {α : Type} {read : List Char → Option (α × List Char)} {told : α → α}
    (h : Reads read told) (text : List Char) :
    sized read (withReturns text) =
      (sized read text).map fun found =>
        (told found.1, (withReturns (text.take found.2)).length) := by
  rw [Detect.sized, Detect.sized, h.returns, Option.map_map, Option.map_map]
  refine Option.map_congr fun found hfound => ?_
  simp only [Function.comp_apply, length_withReturns_take (h.suffix hfound)]

/-- Where something is seen plays no part either: a search comes upon the same sights. -/
theorem BlindToReturns.sightsFrom {α : Type} {see : Recogniser α} {told : α → α}
    (h : BlindToReturns see told) (front back : List Char) (skip : Nat) (before : Option Char) :
    sightsFrom see (withReturns (back.take skip)).length (withReturns front).length before
        (withReturns back) =
      (sightsFrom see skip front.length before back).map fun found =>
        ((withReturns ((front ++ back).take found.1)).length, told found.2) := by
  induction back generalizing front skip before with
  | nil => cases skip <;> rfl
  | cons c rest ih =>
      have hnext := fun skip => ih (front ++ [c]) skip (some c)
      simp only [withReturns_append, List.length_append, List.append_assoc,
        List.singleton_append] at hnext
      have hhere : (withReturns ((front ++ c :: rest).take front.length)).length =
          (withReturns front).length := by rw [List.take_left]
      by_cases hc : c = '\n'
      · -- the two characters stand for one, and at neither is anything seen
        subst hc
        have hreturn := h.unseen '\r' (by simp)
        have hfeed := h.unseen '\n' (by simp)
        cases skip with
        | zero =>
            rw [List.take_zero, withReturns_nil, List.length_nil, withReturns_lineFeed,
              Detect.sightsFrom, hreturn, Detect.sightsFrom, hfeed, Detect.sightsFrom, hfeed]
            exact hnext 0
        | succ skip =>
            rw [List.take_succ_cons, withReturns_lineFeed, withReturns_lineFeed,
              List.length_cons, List.length_cons, Detect.sightsFrom, Detect.sightsFrom,
              Detect.sightsFrom]
            exact hnext skip
      · rw [withReturns_cons hc] at hnext ⊢
        cases skip with
        | zero =>
            have hsight := h.sight before (c :: rest)
            rw [withReturns_cons hc] at hsight
            rw [List.take_zero, withReturns_nil, List.length_nil, Detect.sightsFrom,
              Detect.sightsFrom, hsight]
            cases see before (c :: rest) with
            | none => exact hnext 0
            | some found =>
                obtain ⟨value, size⟩ := found
                have hsize : (withReturns ((c :: rest).take size)).length - 1 =
                    (withReturns (rest.take (size - 1))).length := by
                  cases size with
                  | zero => simp
                  | succ size => simp [withReturns_cons hc]
                simp only [Option.map_some, List.map_cons, hhere, hsize]
                exact congrArg (_ :: ·) (hnext (size - 1))
        | succ skip =>
            rw [List.take_succ_cons, withReturns_cons hc, List.length_cons, Detect.sightsFrom,
              Detect.sightsFrom]
            exact hnext skip

theorem BlindToReturns.sights {α : Type} {see : Recogniser α} {told : α → α}
    (h : BlindToReturns see told) (text : List Char) :
    sights see (withReturns text) =
      (sights see text).map fun found =>
        ((withReturns (text.take found.1)).length, told found.2) :=
  h.sightsFrom [] text 0 none

theorem BlindToReturns.seen {α : Type} {see : Recogniser α} {told : α → α}
    (h : BlindToReturns see told) (text : List Char) :
    seen see (withReturns text) = seen see text := by
  rw [Bool.eq_iff_iff, ← Bool.not_eq_false, ← Bool.not_eq_false, ← sights_eq_nil_iff,
    ← sights_eq_nil_iff, h.sights, List.map_eq_nil_iff]

/-! ### References -/

/-- The key of a reference with a prefix, and what follows the reference. -/
def prefixedKey? (language : String) (text : List Char) : Option (String × List Char) :=
  (after? language.toList text).bind fun rest =>
    (after? [':'] (skipBlanks rest)).bind fun rest =>
      (after? ['S'] (skipBlanks rest)).bind fun rest =>
        (ruleNumber? rest).map fun found =>
          (language ++ ":S" ++ String.ofList found.1, found.2)

theorem prefixedAt?_eq_sized (language : String) (text : List Char) :
    prefixedAt? language text = sized (prefixedKey? language) text := by
  simp only [prefixedAt?, sized, prefixedKey?, Option.bind_eq_bind, Option.pure_def,
    Option.map_eq_bind, Option.bind_assoc, Function.comp_def, Option.bind_some]

theorem prefixedKey?_reads {language : String} (h : language ∈ rulePrefixes) :
    Reads (prefixedKey? language) id :=
  (after?_skips (not_mem_language h (by decide)) (not_mem_language h (by decide))).reads
    ((sign_skips (by decide) (by decide)).reads
      ((sign_skips (by decide) (by decide)).reads
        (ruleNumber?_reads.value fun digits => language ++ ":S" ++ String.ofList digits)))

theorem lineEnd_facts : ∀ c ∈ ['\r', '\n'], isBlank c = true ∧ c ∉ openers ∧ lower c ≠ '"' ∧
    lower c ≠ 's' := forall_mem_of_all (by decide)

theorem prefixedReference_returns : BlindToReturns prefixedReference id where
  unseen c hc := prefixedReference_blind.unseen c (Or.inl (lineEnd_facts c hc).1)
  sight before text := by
    rw [prefixedReference, prefixedReference]
    split
    · rfl
    · rw [List.map_findSome?]
      refine findSome?_congr fun language hlanguage => ?_
      simp only [prefixedAt?_eq_sized, (prefixedKey?_reads hlanguage).sized, Function.comp_apply]

/-- The key of a reference without a prefix, and what follows the reference. -/
def bareKey? (text : List Char) : Option (String × List Char) :=
  (after? ['S'] text).bind fun rest =>
    ((ruleNumber? rest).filter fun found => !neighbourIsWord found.2.head?).map fun found =>
      ("S" ++ String.ofList found.1, found.2)

theorem bareReference_eq_sized (before : Option Char) (text : List Char) :
    bareReference before text = if neighbourIsWord before then none else sized bareKey? text := by
  rw [bareReference]
  split
  · rfl
  rw [sized, bareKey?]
  simp only [Option.bind_eq_bind, Option.pure_def, Option.map_bind, Function.comp_def,
    Option.map_map]
  refine Option.bind_congr fun rest _ => ?_
  cases ruleNumber? rest with
  | none => rfl
  | some found =>
      obtain ⟨digits, rest⟩ := found
      cases hword : neighbourIsWord rest.head? <;> simp [hword, Option.filter]

theorem bareKey?_reads : Reads bareKey? id := by
  have hnumber : Reads
      (fun text => (ruleNumber? text).filter fun found => !neighbourIsWord found.2.head?) id := by
    constructor
    · intro text value rest h
      exact ruleNumber?_reads.suffix (Option.filter_eq_some_iff.mp h).1
    · intro text
      rw [ruleNumber?_reads.returns]
      cases ruleNumber? text with
      | none => rfl
      | some found =>
          simp only [Option.map_some, Option.filter, neighbourIsWord_withReturns]
          split <;> rfl
  exact (after?_skips (by decide) (by decide)).reads
    (hnumber.value fun digits => "S" ++ String.ofList digits)

theorem bareReference_returns : BlindToReturns bareReference id where
  unseen c hc := bareReference_blind.unseen c (Or.inl (lineEnd_facts c hc).1)
  sight before text := by
    rw [bareReference_eq_sized, bareReference_eq_sized]
    split
    · rfl
    · exact bareKey?_reads.sized text

theorem ruleReferences_withReturns (text : List Char) :
    ruleReferences (withReturns text) = ruleReferences text := by
  simp only [ruleReferences, prefixedReference_returns.sights, bareReference_returns.sights,
    List.map_map, Function.comp_def, id]

/-! ### Words that silence everything -/

/-- A word is as long as it is, in any case. -/
theorem afterAnyCase?_eq_sized (word text : List Char) :
    (afterAnyCase? word text).map (fun _ => ((), word.length)) =
      sized (fun text => (afterAnyCase? word text).map ((), ·)) text := by
  rw [sized, Option.map_map]
  refine Option.map_congr fun rest hrest => ?_
  rw [afterAnyCase?_eq_readBy, readBy_eq_some_iff] at hrest
  obtain ⟨taken, rfl, htaken⟩ := hrest
  simp [← htaken]

theorem afterAnyCase?_skips {word : List Char} (hreturn : '\r' ∉ word) (hfeed : '\n' ∉ word) :
    Skips (afterAnyCase? word) := by
  rw [funext (afterAnyCase?_eq_readBy word)]
  exact readBy_skips hreturn hfeed

theorem anyCaseWord_returns {word : List Char} (hreturn : '\r' ∉ word) (hfeed : '\n' ∉ word)
    (text : List Char) :
    (afterAnyCase? word (withReturns text)).map (fun _ => ((), word.length)) =
      ((afterAnyCase? word text).map fun _ => ((), word.length)).map fun found =>
        (found.1, (withReturns (text.take found.2)).length) := by
  rw [afterAnyCase?_eq_sized, afterAnyCase?_eq_sized]
  exact ((afterAnyCase?_skips hreturn hfeed).value ()).sized text

theorem quotedAll_returns : BlindToReturns quotedAll id where
  unseen c hc before rest := by
    simp [quotedAll, afterAnyCase?, (lineEnd_facts c hc).2.2.1]
  sight before text := anyCaseWord_returns (by decide) (by decide) text

theorem platformWord_returns : BlindToReturns platformWord id where
  unseen c hc before rest := by
    simp [platformWord, afterAnyCase?, (lineEnd_facts c hc).2.2.2]
  sight before text := by
    rw [platformWord, platformWord]
    split
    · rfl
    · exact anyCaseWord_returns (by decide) (by decide) text

theorem annotationVerdict_withReturns (payload : List Char) :
    annotationVerdict (withReturns payload) = annotationVerdict payload := by
  simp only [annotationVerdict, ruleReferences_withReturns, quotedAll_returns.seen]

theorem attributeVerdict_withReturns (payload : List Char) :
    attributeVerdict (withReturns payload) = attributeVerdict payload := by
  simp only [attributeVerdict, ruleReferences_withReturns, platformWord_returns.seen]

/-! ### Directives -/

/-- The payload of an annotation, and what follows the annotation. -/
def annotationPayload? (name : String) (text : List Char) : Option (List Char × List Char) :=
  (after? name.toList text).bind fun rest => (after? ['('] (skipBlanks rest)).bind (cutAt? ')')

theorem annotationShape_eq_sized (name : String) (before : Option Char) (text : List Char) :
    annotationShape name before text = sized (annotationPayload? name) text := by
  simp only [annotationShape, sized, annotationPayload?, Option.bind_eq_bind, Option.pure_def,
    Option.map_eq_bind, Option.bind_assoc, Function.comp_def]

/-- The payload of an attribute, and what follows the attribute. -/
def attributeBody? (fold : Char → Char) (qualifier name : String) (opening close : Char)
    (text : List Char) : Option (List Char × List Char) :=
  (after? [opening] text).bind fun rest => (some (skipBlanks rest)).bind fun rest =>
    (some (skipTarget (readBy fold) rest)).bind fun rest =>
      (some ((readBy fold qualifier.toList rest).getD rest)).bind fun rest =>
        (readBy fold name.toList rest).bind fun rest =>
          (after? ['('] (skipBlanks rest)).bind (attributePayload? close)

theorem attributeShape_eq_sized {read : WordReader} {fold : Char → Char}
    (hread : read = readBy fold) (qualifier name : String) (opening close : Char)
    (before : Option Char) (text : List Char) :
    attributeShape read qualifier name opening close before text =
      sized (attributeBody? fold qualifier name opening close) text := by
  simp only [attributeShape, hread, sized, attributeBody?, Option.bind_eq_bind, Option.pure_def,
    Option.map_eq_bind, Option.bind_assoc, Option.bind_some, Function.comp_def]

theorem annotationPayload?_reads {name : String} (hreturn : '\r' ∉ name.toList)
    (hfeed : '\n' ∉ name.toList) : Reads (annotationPayload? name) withReturns :=
  (after?_skips hreturn hfeed).reads
    ((sign_skips (by decide) (by decide)).reads (cutAt?_reads (by decide) (by decide)))

section Attribute

variable {fold : Char → Char} (hreturn : fold '\r' = '\r') (hfeed : fold '\n' = '\n')

include hreturn hfeed

theorem wordRead_skips {word : String} (h : '\r' ∉ word.toList ∧ '\n' ∉ word.toList) :
    Skips (readBy fold word.toList) :=
  readBy_skips (by rw [hreturn]; exact h.1) (by rw [hfeed]; exact h.2)

theorem skipTarget_skips : Skips fun text => some (skipTarget (readBy fold) text) := by
  have hwords : ∀ name ∈ attributeTargets, '\r' ∉ name.toList ∧ '\n' ∉ name.toList := by decide
  have htarget := Skips.firstOf fun name hname =>
    (wordRead_skips hreturn hfeed (hwords name hname)).bind
      ((sign_skips (c := ':') (by decide) (by decide)).bind skipBlanks_skips)
  exact htarget.optional

theorem attributeBody?_reads {qualifier name : String} {opening close : Char}
    (hqualifier : '\r' ∉ qualifier.toList ∧ '\n' ∉ qualifier.toList)
    (hname : '\r' ∉ name.toList ∧ '\n' ∉ name.toList)
    (hopening : '\r' ≠ opening ∧ '\n' ≠ opening) (hclose : '\r' ≠ close ∧ '\n' ≠ close) :
    Reads (attributeBody? fold qualifier name opening close) withReturns := by
  have hbracket : Skips (after? [opening]) :=
    after?_skips (by simpa using hopening.1) (by simpa using hopening.2)
  have harguments := (sign_skips (c := '(') (by decide) (by decide)).reads
    (attributePayload?_reads hclose.1 hclose.2)
  exact hbracket.reads (skipBlanks_skips.reads ((skipTarget_skips hreturn hfeed).reads
    ((wordRead_skips hreturn hfeed hqualifier).optional.reads
      ((wordRead_skips hreturn hfeed hname).reads harguments))))

end Attribute

/-- A directive's shape is a reader, and its judgement takes no notice of returns in a payload. -/
theorem directive_reads : ∀ d ∈ directives,
    (∃ read, Reads read withReturns ∧ ∀ before text, d.family.shape before text = sized read text) ∧
    ∀ payload, d.family.judge (withReturns payload) = d.family.judge payload := by
  have hexact := funext fun word => funext (after?_eq_readBy word)
  have hanyCase := funext fun word => funext (afterAnyCase?_eq_readBy word)
  simp only [directives, List.forall_mem_cons, List.not_mem_nil, false_implies, implies_true,
    and_true]
  refine ⟨⟨⟨_, ?_, annotationShape_eq_sized _⟩, annotationVerdict_withReturns⟩,
    ⟨⟨_, ?_, annotationShape_eq_sized _⟩, annotationVerdict_withReturns⟩,
    ⟨⟨_, ?_, attributeShape_eq_sized hexact _ _ _ _⟩, attributeVerdict_withReturns⟩,
    ⟨⟨_, ?_, attributeShape_eq_sized hanyCase _ _ _ _⟩, attributeVerdict_withReturns⟩⟩
  · exact annotationPayload?_reads (by decide) (by decide)
  · exact annotationPayload?_reads (by decide) (by decide)
  · exact attributeBody?_reads rfl rfl (by decide) (by decide) (by decide) (by decide)
  · exact attributeBody?_reads (by decide) (by decide) (by decide) (by decide) (by decide)
      (by decide)

theorem directive_returns {d : Directive} (hd : d ∈ directives) :
    BlindToReturns d.family.shape withReturns where
  unseen c hc := directive_unseen (lineEnd_facts c hc).2.1 d hd
  sight before text := by
    obtain ⟨⟨read, hread, hshape⟩, -⟩ := directive_reads d hd
    rw [hshape, hshape, hread.sized]

theorem Directive.candidates_withReturns {d : Directive} (hd : d ∈ directives)
    (text : List Char) : d.candidates (withReturns text) = d.candidates text := by
  obtain ⟨-, hjudge⟩ := directive_reads d hd
  rw [Directive.candidates_eq_sights hd, Directive.candidates_eq_sights hd,
    (directive_returns hd).sights, List.filterMap_map]
  refine congrArg (List.filterMap · _) (funext fun sight => ?_)
  rw [Function.comp_apply, hjudge, lineAt_withReturns]

/-! ### Markers -/

/-- A last character that is part of no word neither makes nor breaks a marker. -/
theorem markerAt_concat_iff {last : Char} (hlast : isWord last = false) {text : List Char} :
    (∃ offset, MarkerAt (text ++ [last]) offset) ↔ ∃ offset, MarkerAt text offset := by
  rw [exists_markerAt_append_iff hlast, or_iff_left not_exists_markerAt_nil]

/-- A return at the end of a line is in no literal and no word. -/
theorem isMarkerLine_return (line : Bytes) :
    isMarkerLine (line ++ [0x0D]) = isMarkerLine line := by
  have hdecode : decode (line ++ [0x0D]) = decode line ++ ['\r'] := by
    rw [decode_append (by decide)]
    exact congrArg (decode line ++ ·) (by decide)
  have hquote : isQuoteMark '\r' = false := by decide
  have hword : isWord '\r' = false := by decide
  rw [isMarkerLine_eq, isMarkerLine_eq, hdecode, stripLiterals_concat hquote, Bool.eq_iff_iff,
    seen_markerWord, seen_markerWord, markerAt_concat_iff hword]

end Detect

/-- Line ends tell nothing apart: with a carriage return before every line feed, a content has the
same findings, on the same lines and with the same words. -/
theorem findings_withReturns (content : Bytes) :
    findingsOfBytes (withReturnBytes content) = findingsOfBytes content := by
  apply findings_congr
  · exact markerCandidates_congr (map_splitAt_withReturnBytes isMarkerLine_return content)
  · rw [directiveCandidates, directiveCandidates, decode_withReturnBytes]
    exact List.flatMap_congr fun d hd => d.candidates_withReturns hd (decode content)

end InlineAudit
