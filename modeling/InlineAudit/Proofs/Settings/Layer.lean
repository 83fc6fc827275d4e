import InlineAudit.Proofs.Yaml.Settled
import InlineAudit.Settings.File
import Mathlib.Logic.Function.Basic

/-!
What a settings file says by itself, whatever the defaults: for each setting a value or none. A file
that can be read has exactly one such layer, and it is read over any settings by laying the layer
over them. Every value of the layer is that of a node which stands at the key of its setting, so a
setting that the file does not mention keeps its default. In a file that merges nothing in, every
value that stands at the key of a setting is that of the layer.
-/

namespace InlineAudit.Settings

open Text Yaml

/-- The settings that are there, each with its value. -/
structure Layer where
  languages : Option (List Raw) := none
  exclude : Option (List Raw) := none
  workers : Option Int := none
  format : Option Raw := none
  failOnFindings : Option Bool := none
  logLevel : Option Raw := none
  logFormat : Option Raw := none

namespace Layer

/-- Settings with those of a layer in their place. -/
def onto (layer : Layer) (settings : Settings) : Settings where
  languages := layer.languages.getD settings.languages
  exclude := layer.exclude.getD settings.exclude
  workers := layer.workers.getD settings.workers
  format := layer.format.getD settings.format
  failOnFindings := layer.failOnFindings.getD settings.failOnFindings
  logLevel := layer.logLevel.getD settings.logLevel
  logFormat := layer.logFormat.getD settings.logFormat

theorem onto_empty : ({} : Layer).onto = id := rfl

/-- A choice is known by what it makes of two defaults. -/
theorem eq_of_getD_eq {α : Type} {x y : Option α} {a b : α} (hne : a ≠ b)
    (ha : x.getD a = y.getD a) (hb : x.getD b = y.getD b) : x = y := by
  cases x with
  | none =>
    cases y with
    | none => rfl
    | some c => exact absurd (ha.trans hb.symm) hne
  | some c =>
    cases y with
    | none => exact absurd (ha.symm.trans hb) hne
    | some d => exact congrArg some ha

/-- Settings that differ from the defaults in everything. -/
def unusual : Settings where
  languages := [""]
  exclude := [""]
  workers := 1
  format := ""
  failOnFindings := true
  logLevel := ""
  logFormat := ""

/-- What a layer holds of a setting is known by what the layer makes of it. -/
theorem field_eq {α : Type} {layer : Layer} (field : Layer → Option α) (get : Settings → α)
    (hget : ∀ layer settings, get (onto layer settings) = (field layer).getD (get settings))
    (hne : get {} ≠ get unusual) {value : Option α}
    (h : ∀ settings, get (onto layer settings) = value.getD (get settings)) :
    field layer = value :=
  eq_of_getD_eq hne ((hget layer {}).symm.trans (h {}))
    ((hget layer unusual).symm.trans (h unusual))

theorem onto_injective : Function.Injective onto := by
  intro layer other h
  have hsame : ∀ {α : Type} (field : Layer → Option α) (get : Settings → α),
      (∀ layer settings, get (onto layer settings) = (field layer).getD (get settings)) →
      get {} ≠ get unusual → field layer = field other := by
    intro α field get hget hne
    refine field_eq field get hget hne fun settings => ?_
    rw [h, hget]
  cases layer
  cases other
  congr
  · exact hsame languages (·.languages) (fun _ _ => rfl) (by decide)
  · exact hsame exclude (·.exclude) (fun _ _ => rfl) (by decide)
  · exact hsame workers (·.workers) (fun _ _ => rfl) (by decide)
  · exact hsame format (·.format) (fun _ _ => rfl) (by decide)
  · exact hsame failOnFindings (·.failOnFindings) (fun _ _ => rfl) (by decide)
  · exact hsame logLevel (·.logLevel) (fun _ _ => rfl) (by decide)
  · exact hsame logFormat (·.logFormat) (fun _ _ => rfl) (by decide)

/-- Every setting of a layer is what a node says that stands at its key in a document. -/
structure StandsIn (layer : Layer) (document : Document) : Prop where
  languages : ∀ texts ∈ layer.languages, ∃ node,
    document.Gives "languages" node document.root ∧ document.texts? node = some texts
  exclude : ∀ texts ∈ layer.exclude, ∃ node,
    document.Gives "exclude" node document.root ∧ document.texts? node = some texts
  workers : ∀ n ∈ layer.workers, ∃ node,
    document.Gives "workers" node document.root ∧ document.int? node = some n
  format : ∀ text ∈ layer.format, ∃ node,
    document.Gives "format" node document.root ∧ document.text? node = some text
  failOnFindings : ∀ b ∈ layer.failOnFindings, ∃ node,
    document.Gives "fail_on_findings" node document.root ∧ document.bool? node = some b
  logLevel : ∀ text ∈ layer.logLevel, ∃ log node, document.Gives "log" log document.root ∧
    document.Gives "level" node log ∧ document.text? node = some text
  logFormat : ∀ text ∈ layer.logFormat, ∃ log node, document.Gives "log" log document.root ∧
    document.Gives "format" node log ∧ document.text? node = some text

theorem standsIn_empty (document : Document) : ({} : Layer).StandsIn document := by
  constructor <;> exact fun _ h => nomatch h

end Layer

/-! ### Decoders -/

namespace Decoder

variable {decoder : Decoder}

/-- Read over any settings, a text lays one layer over them. -/
def Lays (decoder : Decoder) (bytes : Bytes) (layer : Layer) : Prop :=
  ∀ settings, decoder bytes settings = .ok (layer.onto settings)

/-- What a text does not mention is left as it was, and what it mentions does not depend on that. -/
def LeavesAbsent (decoder : Decoder) : Prop :=
  ∀ bytes file, decoder bytes {} = .ok file → ∃ layer, decoder.Lays bytes layer

theorem Lays.unique {bytes : Bytes} {layer other : Layer} (h : decoder.Lays bytes layer)
    (hother : decoder.Lays bytes other) : other = layer := by
  refine Layer.onto_injective (funext fun settings => ?_)
  exact Except.ok.inj ((hother settings).symm.trans (h settings))

end Decoder

/-- Settings are changed by a layer that stands in a document. -/
def LaidFrom (document : Document) (values : Settings → Settings) : Prop :=
  ∃ layer : Layer, layer.StandsIn document ∧ values = layer.onto

/-- A field that is set to the value that was found is as good as that. -/
theorem setField_alike {α ι : Type} {good : (ι → Settings) → Prop} {document : Document}
    {node : Node} {read : Document → Node → Reader (Option α)} {set : Settings → α → Settings}
    {found : Option α} (name : String)
    (hread : Alike (Constant (· = found)) fun _ : ι => read document node)
    (hset : ∀ a ∈ found, ∀ held, good held → good fun i => set (held i) a) {held : ι → Settings}
    (hheld : good held) :
    Alike good fun i => (setField name read set).read document node (held i) := by
  refine hread.andThen fun a ha => ?_
  subst ha
  split
  · rename_i a
    exact .pure (hset a rfl held hheld)
  · exact .pure hheld

/-- Within the log settings, the level and the format are read. -/
theorem logFields_alike {document : Document} {log : Node}
    (hlog : document.Gives "log" log document.root) :
    FieldsAlike (LaidFrom document) logFields document log := by
  intro field hfield node hgives held hheld
  simp only [logFields, List.mem_cons, List.not_mem_nil, or_false] at hfield
  rcases hfield with rfl | rfl
  · refine setField_alike "level" (readText_alike document node) ?_ hheld
    rintro text htext - ⟨layer, hstands, rfl⟩
    refine ⟨{ layer with logLevel := some text }, { hstands with logLevel := ?_ }, rfl⟩
    rintro _ ⟨⟩
    exact ⟨log, node, hlog, hgives, htext⟩
  · refine setField_alike "format" (readText_alike document node) ?_ hheld
    rintro text htext - ⟨layer, hstands, rfl⟩
    refine ⟨{ layer with logFormat := some text }, { hstands with logFormat := ?_ }, rfl⟩
    rintro _ ⟨⟩
    exact ⟨log, node, hlog, hgives, htext⟩

/-- Every field adds to the layer what its node says, and leaves the rest of the layer. -/
theorem fields_alike (document : Document) :
    FieldsAlike (LaidFrom document) fields document document.root := by
  intro field hfield node hgives held hheld
  simp only [fields, List.mem_cons, List.not_mem_nil, or_false] at hfield
  rcases hfield with rfl | rfl | rfl | rfl | rfl | rfl
  · obtain ⟨layer, hstands, rfl⟩ := hheld
    refine (readTexts_alike document node _).bind fun results hresults => .pure ?_
    subst hresults
    cases htexts : document.texts? node with
    | none => exact ⟨layer, hstands, rfl⟩
    | some texts =>
      refine ⟨{ layer with languages := some texts }, { hstands with languages := ?_ }, rfl⟩
      rintro _ ⟨⟩
      exact ⟨node, hgives, htexts⟩
  · obtain ⟨layer, hstands, rfl⟩ := hheld
    refine (readTexts_alike document node _).bind fun results hresults => .pure ?_
    subst hresults
    cases htexts : document.texts? node with
    | none => exact ⟨layer, hstands, rfl⟩
    | some texts =>
      refine ⟨{ layer with exclude := some texts }, { hstands with exclude := ?_ }, rfl⟩
      rintro _ ⟨⟩
      exact ⟨node, hgives, htexts⟩
  · refine setField_alike "workers" (readScalar_alike document "int" _ node) ?_ hheld
    rintro n hn - ⟨layer, hstands, rfl⟩
    refine ⟨{ layer with workers := some n }, { hstands with workers := ?_ }, rfl⟩
    rintro _ ⟨⟩
    exact ⟨node, hgives, hn⟩
  · refine setField_alike "format" (readText_alike document node) ?_ hheld
    rintro text htext - ⟨layer, hstands, rfl⟩
    refine ⟨{ layer with format := some text }, { hstands with format := ?_ }, rfl⟩
    rintro _ ⟨⟩
    exact ⟨node, hgives, htext⟩
  · refine setField_alike "fail_on_findings" (readScalar_alike document "bool" _ node) ?_ hheld
    rintro b hb - ⟨layer, hstands, rfl⟩
    refine ⟨{ layer with failOnFindings := some b }, { hstands with failOnFindings := ?_ }, rfl⟩
    rintro _ ⟨⟩
    exact ⟨node, hgives, hb⟩
  · exact readStructure_alike (logFields_alike hgives) hheld

/-! ### What stands at a key takes effect -/

section Covered

variable {document : Document}

/-- Every value that stands at the key of a setting is that of the layer. -/
structure Layer.Covers (layer : Layer) (document : Document) : Prop where
  languages : ∀ node, document.Gives "languages" node document.root →
    ∀ texts ∈ document.texts? node, layer.languages = some texts
  exclude : ∀ node, document.Gives "exclude" node document.root →
    ∀ texts ∈ document.texts? node, layer.exclude = some texts
  workers : ∀ node, document.Gives "workers" node document.root →
    ∀ n ∈ document.int? node, layer.workers = some n
  format : ∀ node, document.Gives "format" node document.root →
    ∀ text ∈ document.text? node, layer.format = some text
  failOnFindings : ∀ node, document.Gives "fail_on_findings" node document.root →
    ∀ b ∈ document.bool? node, layer.failOnFindings = some b
  logLevel : ∀ log node, document.Gives "log" log document.root →
    document.Gives "level" node log → ∀ text ∈ document.text? node, layer.logLevel = some text
  logFormat : ∀ log node, document.Gives "log" log document.root →
    document.Gives "format" node log → ∀ text ∈ document.text? node, layer.logFormat = some text

/-- Neither the settings nor the log settings merge anything in. -/
def MergesNothing (document : Document) : Prop :=
  document.MergesNothing document.root ∧
    ∀ log, document.Gives "log" log document.root → document.MergesNothing log

/-- Log settings are as the node at a key says. -/
structure LogObeys (document : Document) (name : String) (node : Node) (settings : Settings) :
    Prop where
  level : name = "level" → ∀ text ∈ document.text? node, settings.logLevel = text
  format : name = "format" → ∀ text ∈ document.text? node, settings.logFormat = text

/-- Settings are as the node at a key says. -/
structure Obeys (document : Document) (name : String) (node : Node) (settings : Settings) :
    Prop where
  languages : name = "languages" → ∀ texts ∈ document.texts? node, settings.languages = texts
  exclude : name = "exclude" → ∀ texts ∈ document.texts? node, settings.exclude = texts
  workers : name = "workers" → ∀ n ∈ document.int? node, settings.workers = n
  format : name = "format" → ∀ text ∈ document.text? node, settings.format = text
  failOnFindings : name = "fail_on_findings" →
    ∀ b ∈ document.bool? node, settings.failOnFindings = b
  logLevel : name = "log" → ∀ inner, document.Gives "level" inner node →
    ∀ text ∈ document.text? inner, settings.logLevel = text
  logFormat : name = "log" → ∀ inner, document.Gives "format" inner node →
    ∀ text ∈ document.text? inner, settings.logFormat = text

theorem getD_eq_of_mem {α : Type} {x : Option α} {a b : α} (h : a ∈ x) : x.getD b = a := by
  rw [Option.mem_def.mp h]
  rfl

/-- A field is set to what was found, or to what it is. -/
theorem setField_settles {α : Type} {node : Node} {read : Document → Node → Reader (Option α)}
    {set : Settings → α → Settings} {found : Option α} (name : String) (held : Settings)
    (get : Settings → α) (hget : ∀ settings, set settings (get settings) = settings)
    (hread : Settles (· = found) Anything (read document node)) :
    Settles (· = set held (found.getD (get held))) Anything
      ((setField name read set).read document node held) := by
  refine hread.andThen fun a ha => ?_
  subst ha
  cases a with
  | none => exact .pure (hget held).symm trivial
  | some a => exact .pure rfl trivial

theorem logFields_settle (log : Node) :
    FieldsSettle (LogObeys document) logFields document log := by
  rintro field hfield node - held
  simp only [logFields, List.mem_cons, List.not_mem_nil, or_false] at hfield
  rcases hfield with rfl | rfl
  · refine (setField_settles "level" held (·.logLevel) (fun _ => rfl)
      (settles_readText document node)).mono (fun _ _ => trivial) ?_
    rintro _ rfl -
    refine ⟨?_, fun name other hne hother =>
      { hother with level := fun hname => absurd hname hne }⟩
    constructor
    case level => exact fun _ _ => getD_eq_of_mem
    all_goals exact fun hname => absurd hname (by decide)
  · refine (setField_settles "format" held (·.logFormat) (fun _ => rfl)
      (settles_readText document node)).mono (fun _ _ => trivial) ?_
    rintro _ rfl -
    refine ⟨?_, fun name other hne hother =>
      { hother with format := fun hname => absurd hname hne }⟩
    constructor
    case format => exact fun _ _ => getD_eq_of_mem
    all_goals exact fun hname => absurd hname (by decide)

/-- Log settings are changed and nothing else. -/
def OnlyLog (held settings : Settings) : Prop :=
  ∃ level format, settings = { held with logLevel := level, logFormat := format }

theorem logFields_onlyLog (held : Settings) (log : Node) :
    FieldsAlike (fun values : Unit → Settings => OnlyLog held (values ())) logFields document
      log := by
  rintro field hfield node - values hvalues
  simp only [logFields, List.mem_cons, List.not_mem_nil, or_false] at hfield
  rcases hfield with rfl | rfl
  · refine setField_alike "level" (readText_alike document node) ?_ hvalues
    rintro text - settings ⟨level, format, hsettings⟩
    exact ⟨text, format, by simp only [hsettings]⟩
  · refine setField_alike "format" (readText_alike document node) ?_ hvalues
    rintro text - settings ⟨level, format, hsettings⟩
    exact ⟨level, text, by simp only [hsettings]⟩

theorem fields_settle
    (hlog : ∀ log, document.Gives "log" log document.root → document.MergesNothing log) :
    FieldsSettle (Obeys document) fields document document.root := by
  intro field hfield node hgives held
  simp only [fields, List.mem_cons, List.not_mem_nil, or_false] at hfield
  rcases hfield with rfl | rfl | rfl | rfl | rfl | rfl
  · refine (settles_readTexts document node held.languages).andThen fun texts htexts => ?_
    subst htexts
    refine .pure trivial ⟨?_, fun name other hne hother =>
      { hother with languages := fun hname => absurd hname hne }⟩
    constructor
    case languages => exact fun _ _ => getD_eq_of_mem
    all_goals exact fun hname => absurd hname (by decide)
  · refine (settles_readTexts document node held.exclude).andThen fun texts htexts => ?_
    subst htexts
    refine .pure trivial ⟨?_, fun name other hne hother =>
      { hother with exclude := fun hname => absurd hname hne }⟩
    constructor
    case exclude => exact fun _ _ => getD_eq_of_mem
    all_goals exact fun hname => absurd hname (by decide)
  · refine (setField_settles "workers" held (·.workers) (fun _ => rfl)
      (settles_readScalar document "int" _ node)).mono (fun _ _ => trivial) ?_
    rintro _ rfl -
    refine ⟨?_, fun name other hne hother =>
      { hother with workers := fun hname => absurd hname hne }⟩
    constructor
    case workers => exact fun _ _ => getD_eq_of_mem
    all_goals exact fun hname => absurd hname (by decide)
  · refine (setField_settles "format" held (·.format) (fun _ => rfl)
      (settles_readText document node)).mono (fun _ _ => trivial) ?_
    rintro _ rfl -
    refine ⟨?_, fun name other hne hother =>
      { hother with format := fun hname => absurd hname hne }⟩
    constructor
    case format => exact fun _ _ => getD_eq_of_mem
    all_goals exact fun hname => absurd hname (by decide)
  · refine (setField_settles "fail_on_findings" held (·.failOnFindings) (fun _ => rfl)
      (settles_readScalar document "bool" _ node)).mono (fun _ _ => trivial) ?_
    rintro _ rfl -
    refine ⟨?_, fun name other hne hother =>
      { hother with failOnFindings := fun hname => absurd hname hne }⟩
    constructor
    case failOnFindings => exact fun _ _ => getD_eq_of_mem
    all_goals exact fun hname => absurd hname (by decide)
  · have halike : Alike (fun values => OnlyLog held (values ())) fun _ : Unit =>
        readStructure "config.LogConfig" logFields document node held :=
      readStructure_alike (logFields_onlyLog held node) ⟨_, _, rfl⟩
    refine ((readStructure_settles (hlog node hgives) (logFields_settle node) held).of_alike
      halike).mono (fun _ _ => trivial) ?_
    rintro _ ⟨level, format, rfl⟩ hobeys
    refine ⟨?_, fun name other hne hother =>
      { hother with
        logLevel := fun hname => absurd hname hne
        logFormat := fun hname => absurd hname hne }⟩
    constructor
    case logLevel =>
      exact fun _ inner hinner => (hobeys _ List.mem_cons_self inner hinner).level rfl
    case logFormat =>
      have hformat := hobeys _ (List.mem_cons_of_mem _ List.mem_cons_self)
      exact fun _ inner hinner => (hformat inner hinner).format rfl
    all_goals exact fun hname => absurd hname (by decide)

/-- What stands at the key of a setting is found in whatever the layer is laid over, so it is in the
layer. -/
theorem covers_of_read {bytes : Bytes} {layer : Layer}
    (hinput : Document.ofInput? (readInput bytes) = some (some document))
    (hplain : MergesNothing document)
    (hread : decode.Lays bytes layer) : layer.Covers document := by
  have hobeys : ∀ name ∈ fields.map (·.name), ∀ node, document.Gives name node document.root →
      ∀ settings, Obeys document name node (layer.onto settings) := by
    intro name hname node hgives settings
    obtain ⟨field, hfield, rfl⟩ := List.mem_map.mp hname
    exact read_settles hinput hplain.1 (fields_settle hplain.2) (hread settings) hfield hgives
  constructor
  case languages =>
    intro node hgives texts htexts
    refine Layer.field_eq Layer.languages (·.languages) (fun _ _ => rfl) (by decide) ?_
    exact fun settings => (hobeys _ (by decide) node hgives settings).languages rfl texts htexts
  case exclude =>
    intro node hgives texts htexts
    refine Layer.field_eq Layer.exclude (·.exclude) (fun _ _ => rfl) (by decide) ?_
    exact fun settings => (hobeys _ (by decide) node hgives settings).exclude rfl texts htexts
  case workers =>
    intro node hgives n hn
    refine Layer.field_eq Layer.workers (·.workers) (fun _ _ => rfl) (by decide) ?_
    exact fun settings => (hobeys _ (by decide) node hgives settings).workers rfl n hn
  case format =>
    intro node hgives text htext
    refine Layer.field_eq Layer.format (·.format) (fun _ _ => rfl) (by decide) ?_
    exact fun settings => (hobeys _ (by decide) node hgives settings).format rfl text htext
  case failOnFindings =>
    intro node hgives b hb
    refine Layer.field_eq Layer.failOnFindings (·.failOnFindings) (fun _ _ => rfl) (by decide) ?_
    exact fun settings => (hobeys _ (by decide) node hgives settings).failOnFindings rfl b hb
  case logLevel =>
    intro log node hlog hgives text htext
    refine Layer.field_eq Layer.logLevel (·.logLevel) (fun _ _ => rfl) (by decide) ?_
    have hlogs := hobeys _ (by decide) log hlog
    exact fun settings => (hlogs settings).logLevel rfl node hgives text htext
  case logFormat =>
    intro log node hlog hgives text htext
    refine Layer.field_eq Layer.logFormat (·.logFormat) (fun _ _ => rfl) (by decide) ?_
    have hlogs := hobeys _ (by decide) log hlog
    exact fun settings => (hlogs settings).logFormat rfl node hgives text htext

end Covered

/-! ### The layer of a text -/

/-- An empty text tells nothing. What a document tells stands in it, and if it merges nothing in,
all that stands in it is told. -/
structure Tells (bytes : Bytes) (layer : Layer) : Prop where
  lays : decode.Lays bytes layer
  empty : Document.ofInput? (readInput bytes) = some none → layer = {}
  stands : ∀ document, Document.ofInput? (readInput bytes) = some (some document) →
    layer.StandsIn document
  covers : ∀ document, Document.ofInput? (readInput bytes) = some (some document) →
    MergesNothing document → layer.Covers document

theorem exists_tells {bytes : Bytes} {file : Settings} (h : decode bytes {} = .ok file) :
    ∃ layer, Tells bytes layer := by
  cases hinput : Document.ofInput? (readInput bytes) with
  | none =>
    simp only [decode, Yaml.read, hinput] at h
    cases h
  | some document? =>
    cases document? with
    | none =>
      have hnone : ∀ document, Document.ofInput? (readInput bytes) ≠ some (some document) := by
        intro document hfound
        cases hinput.symm.trans hfound
      refine ⟨{}, ?_⟩
      exact {
        lays := read_empty hinput
        empty := fun _ => rfl
        stands := fun document hfound => absurd hfound (hnone document)
        covers := fun document hfound => absurd hfound (hnone document) }
    | some document =>
      have hheld : LaidFrom document id := ⟨{}, Layer.standsIn_empty document, rfl⟩
      obtain ⟨_, ⟨layer, hstands, rfl⟩, hread⟩ :=
        read_alike hinput (fields_alike document) hheld (i := {}) h
      have honly : ∀ other, Document.ofInput? (readInput bytes) = some (some other) →
          other = document := fun other hfound =>
        Option.some.inj (Option.some.inj (hfound.symm.trans hinput))
      refine ⟨layer, ?_⟩
      exact {
        lays := hread
        empty := fun hempty => by cases hempty.symm.trans hinput
        stands := fun other hfound => honly other hfound ▸ hstands
        covers := fun other hfound hplain => covers_of_read hfound hplain hread }

end InlineAudit.Settings
