import InlineAudit.Command.Program
import InlineAudit.Proofs.Text.Lines

/-!
Command lines that are written flag by flag: each flag by its name, with its value in a word of its
own if it takes one, and in the end a directory. Reading such a line applies the flags one after the
other, and nothing in front of the directory is taken for an argument. A text that has nothing a
record could stumble over is a list of one.
-/

namespace InlineAudit.Command

open Text

variable {σ : Type}

theorem isArgument_eq_false {word : String} {c : Char} {letters : List Char}
    (h : word.toList = '-' :: c :: letters) : isArgument word = false := by
  have hdash : word.startsWith "-" = true := by
    rw [String.startsWith_string_iff, h]
    exact List.prefix_append ['-'] _
  have hmore : word ≠ "-" := by
    rintro rfl
    simp at h
  rw [isArgument, hdash, decide_eq_false hmore]
  rfl

theorem startsWith_of_not_isArgument {word : String} (h : isArgument word = false) :
    word.startsWith "-" = true := by
  rw [isArgument, Bool.or_eq_false_iff] at h
  simpa using h.1

/-- A double dash ends the flags. -/
theorem parse_end (flags : List (Flag σ)) (options : σ) (arguments : List String) :
    parse flags options ("--" :: arguments) = .ok (options, arguments) := by
  have hdashes : isArgument "--" = false := isArgument_eq_false rfl
  rw [parse, hdashes, if_neg (by simp), if_pos rfl]

theorem firstArgument?_end (flags : List (Flag σ)) (arguments : List String) :
    firstArgument? flags ("--" :: arguments) = none := by
  rcases arguments with _ | ⟨_, _ | _⟩ <;> simp [firstArgument?]

theorem eq_of_firstArgument?_singleton {flags : List (Flag σ)} {word other : String}
    (h : firstArgument? flags [word] = some other) : other = word := by
  rw [firstArgument?.eq_3 _ _ _ (by simp)] at h
  split at h
  · cases h
  · split at h
    · cases h
    · split at h
      · exact (Option.some.inj h).symm
      · simp [firstArgument?] at h

/-- A word that is a flag by itself is skipped. -/
theorem firstArgument?_skip {flags : List (Flag σ)} {word : String}
    (hword : isArgument word = false) (hne : word ≠ "--") (htakes : takesNext flags word = false)
    (rest : List String) : firstArgument? flags (word :: rest) = firstArgument? flags rest := by
  have hdash := startsWith_of_not_isArgument hword
  rcases rest with _ | ⟨_, _ | _⟩ <;> simp [firstArgument?, hne, htakes, hdash]

/-- A flag as it is written: by its name, with a value that it implies or else is given. -/
structure Given (flags : List (Flag σ)) where
  name : String
  flag : Flag σ
  value : String
  found : findName flags name = some flag
  named : name ≠ "" ∧ name.toList.head? ≠ some '-' ∧ '=' ∉ name.toList
  implied : ∀ implied, flag.implied = some implied → value = implied

namespace Given

variable {flags : List (Flag σ)}

def word (given : Given flags) : String := "--" ++ given.name

def words (given : Given flags) : List String :=
  given.word :: if given.flag.implied.isSome then [] else [given.value]

def apply (given : Given flags) (options : σ) : Except FlagError σ :=
  given.flag.apply options given.value

theorem toList_word (given : Given flags) :
    given.word.toList = '-' :: '-' :: given.name.toList :=
  String.toList_append

theorem isArgument_word (given : Given flags) : isArgument given.word = false :=
  isArgument_eq_false given.toList_word

theorem word_ne (given : Given flags) : given.word ≠ "--" := by
  rw [Ne, ← String.toList_inj, given.toList_word]
  simpa using given.named.1

theorem readFlag_word (given : Given flags) (more : List (Flag σ)) (options : σ) :
    readFlag (flags ++ more) options given.word =
      if given.flag.implied.isSome then (given.apply options).map .done
      else .ok (.value given.flag (.missingValue given.name)) := by
  obtain ⟨-, hdash, hequals⟩ := given.named
  have hhead : ¬(given.name.toList.head? = some '-' || given.name.toList.head? = some '=') := by
    simp only [Bool.or_eq_true, decide_eq_true_eq, not_or]
    exact ⟨hdash, fun h => hequals (List.mem_of_mem_head? h)⟩
  have hcut : cutAt? '=' given.name.toList = none := by
    refine Option.eq_none_iff_forall_ne_some.mpr fun parts hparts => hequals ?_
    rw [(cutAt?_eq_some_iff.mp hparts).2]
    simp
  have hfound : findName (flags ++ more) given.name = some given.flag := by
    have hfound := given.found
    rw [findName] at hfound
    rw [findName, List.find?_append, hfound, Option.some_or]
  rw [readFlag, given.toList_word]
  simp only [readLong, if_neg hhead, hcut, String.ofList_toList, hfound, Option.none_or]
  cases himplied : given.flag.implied with
  | none => rfl
  | some value =>
    rw [apply, given.implied value himplied]
    rfl

/-- Reading a flag applies it. -/
theorem parse_words (given : Given flags) (more : List (Flag σ)) (options : σ)
    (rest : List String) :
    parse (flags ++ more) options (given.words ++ rest) =
      given.apply options >>= fun options => parse (flags ++ more) options rest := by
  cases himplied : given.flag.implied with
  | some value =>
    rw [words, himplied, Option.isSome_some, if_pos rfl, List.singleton_append, parse,
      given.isArgument_word, if_neg (by simp), if_neg given.word_ne, given.readFlag_word, himplied,
      Option.isSome_some, if_pos rfl]
    cases given.apply options <;> rfl
  | none =>
    rw [words, himplied, Option.isSome_none, if_neg (by simp), List.cons_append, parse,
      given.isArgument_word, if_neg (by simp), if_neg given.word_ne, given.readFlag_word, himplied,
      Option.isSome_none, if_neg (by simp)]
    rfl

theorem takesNext_word (given : Given flags) :
    takesNext flags given.word = !given.flag.implied.isSome := by
  have hequals : '=' ∉ given.name.toList := given.named.2.2
  rw [takesNext, given.toList_word]
  simp [hequals, given.found]

/-- The first argument is looked for behind a flag. -/
theorem firstArgument?_words (given : Given flags) {rest : List String} (h : rest ≠ []) :
    firstArgument? flags (given.words ++ rest) = firstArgument? flags rest := by
  obtain ⟨next, more, rfl⟩ := List.exists_cons_of_ne_nil h
  have htakes := given.takesNext_word
  cases himplied : given.flag.implied with
  | none =>
    rw [himplied] at htakes
    rw [words, himplied, Option.isSome_none, if_neg (by simp), List.cons_append,
      List.singleton_append, firstArgument?, if_neg given.word_ne, htakes]
    rfl
  | some value =>
    rw [himplied] at htakes
    rw [words, himplied, Option.isSome_some, if_pos rfl, List.singleton_append]
    exact firstArgument?_skip given.isArgument_word given.word_ne htakes _

end Given

/-- Flags in front of other words are applied one after the other. -/
theorem parse_givens {flags : List (Flag σ)} (givens : List (Given flags)) (more : List (Flag σ))
    (options : σ) (rest : List String) :
    parse (flags ++ more) options (givens.flatMap (·.words) ++ rest) =
      givens.foldlM (fun options (given : Given flags) => given.apply options) options >>=
        fun options => parse (flags ++ more) options rest := by
  induction givens generalizing options with
  | nil => rfl
  | cons given givens ih =>
    rw [List.flatMap_cons, List.append_assoc, given.parse_words, List.foldlM_cons]
    cases given.apply options with
    | error cause => rfl
    | ok options => exact ih options

theorem firstArgument?_givens {flags : List (Flag σ)} (givens : List (Given flags))
    {rest : List String} (h : rest ≠ []) :
    firstArgument? flags (givens.flatMap (·.words) ++ rest) = firstArgument? flags rest := by
  induction givens with
  | nil => rfl
  | cons given givens ih =>
    rw [List.flatMap_cons, List.append_assoc, given.firstArgument?_words (by simp [h]), ih]

/-! ### Directories -/

/-- The words that name a directory at the end of a command line: any path behind a double dash,
and without one a path that is taken neither for a flag nor for a command. -/
inductive Names (path : String) : List String → Prop
  | behind : Names path ["--", path]
  | plain (hargument : isArgument path = true) (hcommand : Called.ofName? path = none) :
      Names path [path]

theorem Names.ne_nil {path : String} {words : List String} (h : Names path words) : words ≠ [] := by
  cases h <;> simp

theorem Names.parse_eq {path : String} {words : List String} (h : Names path words)
    (flags : List (Flag σ)) (options : σ) : parse flags options words = .ok (options, [path]) := by
  cases h with
  | behind => exact parse_end flags options [path]
  | plain hargument _ =>
    rw [parse, if_pos hargument]
    rfl

/-- No other command is meant. -/
theorem Names.no_command {path : String} {words : List String} (h : Names path words)
    (flags : List (Flag σ)) : (firstArgument? flags words).bind Called.ofName? = none := by
  cases h with
  | behind => rw [firstArgument?_end, Option.bind_none]
  | plain hargument hcommand =>
    cases hfirst : firstArgument? flags [path] with
    | none => rfl
    | some word => rwa [eq_of_firstArgument?_singleton hfirst]

/-! ### Lists -/

/-- A character without a meaning of its own in a record. -/
def IsPlain (c : Char) : Prop := c ≠ ',' ∧ c ≠ '"' ∧ c ≠ '\n' ∧ c ≠ '\r'

instance (c : Char) : Decidable (IsPlain c) := inferInstanceAs (Decidable (_ ∧ _))

theorem plainLines_of_plain {text : List Char} (h : ∀ c ∈ text, IsPlain c) :
    plainLines text = text := by
  induction text with
  | nil => rfl
  | cons c rest ih =>
    have hc : c ≠ '\r' := (h c List.mem_cons_self).2.2.2
    rw [plainLines.eq_def]
    simp [ih fun d hd => h d (List.mem_cons_of_mem c hd), hc]

/-- Plain characters are read into the field. -/
theorem recordFrom_plain {text : List Char} (h : ∀ c ∈ text, IsPlain c) {mode : FieldMode}
    (hmode : mode = .start ∨ mode = .bare) (state : RecordState) :
    recordFrom mode state text =
      .ok { state with field := text.reverse ++ state.field }.finish := by
  induction text generalizing mode state with
  | nil => rcases hmode with rfl | rfl <;> rfl
  | cons c rest ih =>
    obtain ⟨hcomma, hquote, hbreak, -⟩ := h c List.mem_cons_self
    have hrest := ih (fun d hd => h d (List.mem_cons_of_mem c hd)) (Or.inr rfl)
      ((state.advance c).push c)
    have hfield : rest.reverse ++ ((state.advance c).push c).field =
        (c :: rest).reverse ++ state.field := by simp [RecordState.push, RecordState.advance]
    rw [hfield] at hrest
    rcases hmode with rfl | rfl <;>
      simp only [recordFrom, hcomma, hquote, hbreak, if_false] <;> exact hrest

/-- A text without commas, quotes and line breaks is a record of one field. -/
theorem readRecord_of_plain {text : String} (hne : text ≠ "") (h : ∀ c ∈ text.toList, IsPlain c) :
    readRecord text = .ok [text] := by
  have hchars : text.toList ≠ [] := by simpa using hne
  obtain ⟨c, rest, htext⟩ := List.exists_cons_of_ne_nil hchars
  have hbreak : c ≠ '\n' := (h c (htext ▸ List.mem_cons_self)).2.2.1
  rw [readRecord, if_neg hne, plainLines_of_plain h]
  have hafter : recordAfter 1 text.toList =
      recordFrom .start { startLine := 1, line := 1, column := 1 } text.toList := by
    rw [htext, recordAfter.eq_def]
    simp [hbreak]
  rw [hafter, recordFrom_plain h (Or.inl rfl)]
  simp [RecordState.finish, RecordState.close]

end InlineAudit.Command
