import InlineAudit.Proofs.Command.Words

/-!
The command line of a scan: how to write the report, the languages one by one, a reference to
compare with, and the directory. Such a line is read as a scan of the directory with the options
that it gives and no others.
-/

namespace InlineAudit.Command

namespace Options

/-- The flag for a format. -/
def givenFormat (format : String) : Given flags where
  name := "format"
  flag := _
  value := format
  found := rfl
  named := by decide
  implied _ h := by cases h

def givenLanguage (language : String) : Given flags where
  name := "lang"
  flag := _
  value := language
  found := rfl
  named := by decide
  implied _ h := by cases h

def givenDiff : Given flags where
  name := "diff"
  flag := _
  value := "true"
  found := rfl
  named := by decide
  implied _ h := Option.some.inj h

def givenRef (ref : String) : Given flags where
  name := "ref"
  flag := _
  value := ref
  found := rfl
  named := by decide
  implied _ h := by cases h

def givenNoColour : Given flags where
  name := "no-color"
  flag := _
  value := "true"
  found := rfl
  named := by decide
  implied _ h := Option.some.inj h

/-- Options with further languages. -/
def withLanguages (options : Options) (languages : List String) : Options :=
  if languages = [] then options
  else { options with languages := some (options.languages.getD [] ++ languages) }

/-- Options with a reference to compare with. -/
def against (options : Options) (ref : String) : Options :=
  if ref = "" then options else { options with diff := true, ref := ref }

theorem apply_givenLanguage (options : Options) {language : String}
    (h : Language.isSupported language = true) :
    (givenLanguage language).apply options =
      .ok { options with languages := some (options.languages.getD [] ++ [language]) } := by
  have hplain : ∀ language ∈ Language.supported,
      language ≠ "" ∧ language.toList.all (IsPlain ·) = true := by decide
  obtain ⟨hne, hchars⟩ := hplain language (List.contains_iff_mem.mp h)
  have hrecord : readRecord language = .ok [language] :=
    readRecord_of_plain hne (by simpa using hchars)
  -- what the flag does with its value is in the table of the flags
  show (((readRecord language).mapError ValueFault.list).map fun added =>
    { options with languages := some (options.languages.getD [] ++ added) }).mapError _ = _
  rw [hrecord]
  rfl

theorem withLanguages_cons (options : Options) (language : String) (languages : List String) :
    withLanguages { options with languages := some (options.languages.getD [] ++ [language]) }
      languages = options.withLanguages (language :: languages) := by
  cases languages <;> simp [withLanguages]

/-- Languages that are given one by one add up. -/
theorem foldlM_givenLanguage (options : Options) {languages : List String}
    (h : ∀ language ∈ languages, Language.isSupported language = true) :
    (languages.map givenLanguage).foldlM
        (fun options (given : Given flags) => given.apply options) options =
      .ok (options.withLanguages languages) := by
  induction languages generalizing options with
  | nil => rfl
  | cons language rest ih =>
    rw [List.map_cons, List.foldlM_cons,
      apply_givenLanguage options (h language List.mem_cons_self), ← withLanguages_cons]
    exact ih _ fun other hother => h other (List.mem_cons_of_mem _ hother)

/-- The flags that compare with a reference, if there is one. -/
def givenAgainst (ref : String) : List (Given flags) :=
  if ref = "" then [] else [givenDiff, givenRef ref]

theorem foldlM_givenAgainst (options : Options) (ref : String) :
    (givenAgainst ref).foldlM (fun options (given : Given flags) => given.apply options) options =
      .ok (options.against ref) := by
  rw [givenAgainst, against]
  split <;> rfl

end Options

open Options

/-- The forms of a report that both a tool and the command line can write. -/
inductive ReportForm where
  | document
  | text

namespace ReportForm

/-- How a tool is asked for a form; the text is also what it writes unasked. -/
def formats : ReportForm → List String
  | document => ["json"]
  | text => ["", "text"]

/-- How a command line asks for it. -/
def words : ReportForm → List String
  | document => ["--format", "json"]
  | text => ["--no-color"]

/-- What the command line writes behind it. -/
def ending : ReportForm → String
  | document => "\n"
  | text => ""

def given : ReportForm → Given flags
  | document => givenFormat "json"
  | text => givenNoColour

def options : ReportForm → Options
  | document => { format := some "json" }
  | text => { noColour := true }

/-- The settings that these options make of the defaults. -/
def settings : ReportForm → Settings
  | document => { format := "json" }
  | text => {}

end ReportForm

/-- The words that ask for a scan, in front of those for the directory: how to write the report, the
languages, and the reference, if there is one. -/
def scanWords (form : ReportForm) (languages : List String) (ref : String) : List String :=
  form.words ++ languages.flatMap (fun language => ["--lang", language])
    ++ if ref = "" then [] else ["--diff", "--ref", ref]

/-- The options that these words give. -/
def scanOptions (form : ReportForm) (languages : List String) (ref : String) : Options :=
  { form.options with
    languages := if languages = [] then none else some languages
    diff := ref ≠ ""
    ref := if ref = "" then "main" else ref }

theorem against_withLanguages (form : ReportForm) (languages : List String) (ref : String) :
    (form.options.withLanguages languages).against ref = scanOptions form languages ref := by
  rw [against, withLanguages, scanOptions]
  cases form <;> split <;> split <;> simp_all [ReportForm.options]

/-- The settings that they come down to. -/
def scanSettings (form : ReportForm) (languages : List String) : Settings :=
  { form.settings with languages := languages.map .ofString }

theorem scanWords_eq (form : ReportForm) (languages : List String) (ref : String) :
    scanWords form languages ref =
      (form.given :: languages.map givenLanguage ++ givenAgainst ref).flatMap (·.words) := by
  have hform : form.given.words = form.words := by cases form <;> rfl
  have hlanguages : (languages.map givenLanguage).flatMap (·.words) =
      languages.flatMap fun language => ["--lang", language] := by
    rw [List.flatMap_map]
    rfl
  have hagainst : (givenAgainst ref).flatMap (·.words) =
      if ref = "" then [] else ["--diff", "--ref", ref] := by
    rw [givenAgainst]
    split <;> rfl
  rw [List.flatMap_append, List.flatMap_cons, hform, hlanguages, hagainst, scanWords]

theorem foldlM_givens (form : ReportForm) {languages : List String}
    (hlanguages : ∀ l ∈ languages, Language.isSupported l = true) (ref : String) :
    (form.given :: languages.map givenLanguage ++ givenAgainst ref).foldlM
        (fun options (given : Given flags) => given.apply options) {} =
      .ok (scanOptions form languages ref) := by
  have hform : form.given.apply {} = .ok form.options := by cases form <;> rfl
  rw [List.cons_append, List.foldlM_cons, hform]
  show (languages.map givenLanguage ++ givenAgainst ref).foldlM
    (fun options (given : Given flags) => given.apply options) form.options = _
  rw [List.foldlM_append, foldlM_givenLanguage form.options hlanguages, ← against_withLanguages]
  exact foldlM_givenAgainst _ ref

/-- Such a line is read as a scan with the options that it gives. -/
theorem run_scanWords (environment : Command.Environment) (form : ReportForm)
    {languages : List String} (hlanguages : ∀ l ∈ languages, Language.isSupported l = true)
    (ref : String) {path : String} {directory : List String} (hdirectory : Names path directory) :
    run environment (scanWords form languages ref ++ directory) =
      scan environment path (scanOptions form languages ref) := by
  have hshown : (scanOptions form languages ref).help = false ∧
      (scanOptions form languages ref).version = false := by
    cases form <;> exact ⟨rfl, rfl⟩
  rw [run, scanWords_eq, firstArgument?_givens _ hdirectory.ne_nil, hdirectory.no_command, runScan,
    parse_givens, foldlM_givens form hlanguages]
  simp only [bind, Except.bind, hdirectory.parse_eq, hshown, Bool.false_eq_true, if_false]

end InlineAudit.Command
