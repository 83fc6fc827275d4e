import InlineAudit.Detect.Ledger
import InlineAudit.Detect.Reference

/-!
The directive families: two kinds of annotation and two kinds of attribute. Each has a shape,
which fixes where an occurrence starts and which text is its payload, and a judgement on the
payload, which decides whether the occurrence counts.
-/

namespace InlineAudit.Detect

open Text

/-- The analyser whose suppressions are looked for. -/
def platform : String := "SonarQube"

/-- What a payload says: the rules it names, and whether it silences everything. -/
structure Verdict where
  rules : List String
  blanket : Bool
  deriving DecidableEq, Repr

/-- The quoted word all, in any case. -/
def quotedAll : Recogniser Unit := fun _ text =>
  (afterAnyCase? ['"', 'a', 'l', 'l', '"'] text).map (fun _ => ((), 5))

/-- A word that starts with the platform's short name, in any case. -/
def platformWord : Recogniser Unit := fun before text =>
  if neighbourIsWord before then none
  else (afterAnyCase? ['s', 'o', 'n', 'a', 'r'] text).map (fun _ => ((), 5))

/-- Annotations count when they name rules or silence everything. -/
def annotationVerdict (payload : List Char) : Option Verdict :=
  let verdict : Verdict := ⟨ruleReferences payload, seen quotedAll payload⟩
  if verdict.rules.isEmpty && !verdict.blanket then none else some verdict

/-- Attributes count when they name rules or, without any, the platform itself. -/
def attributeVerdict (payload : List Char) : Option Verdict :=
  let rules := ruleReferences payload
  if !rules.isEmpty then some ⟨rules, false⟩
  else if seen platformWord payload then some ⟨[], true⟩
  else none

/-- The sentence every message ends with. -/
def notPermitted : String := "Suppressing " ++ platform ++ " rules is not permitted."

def annotationMessage (label : String) (verdict : Verdict) : String :=
  if verdict.blanket then
    "Remove this " ++ label ++ "(\"all\") annotation. "
      ++ "Blanket suppression of all warnings is not permitted."
  else
    "Remove this " ++ label ++ " annotation suppressing rule(s): "
      ++ join ", " verdict.rules ++ ". " ++ notPermitted

def attributeMessage (label : String) (verdict : Verdict) : String :=
  let detail :=
    if verdict.rules.isEmpty then platform ++ " rules"
    else "rule(s): " ++ join ", " verdict.rules
  "Remove this " ++ label ++ " attribute suppressing " ++ detail ++ ". " ++ notPermitted

/-- An annotation: its name, white space or none, and a payload in parentheses that ends at the
first closing one. -/
def annotationShape (name : String) : Recogniser (List Char) := fun _ text => do
  let rest ← after? name.toList text
  let rest ← after? ['('] (skipBlanks rest)
  let (payload, rest) ← cutAt? ')' rest
  return (payload, text.length - rest.length)

/-- What follows if the text goes on, after white space, with the bracket `close`. -/
def closedBy? (close : Char) (text : List Char) : Option (List Char) :=
  after? [close] (skipBlanks text)

/-- The payload of an attribute: it ends at the first closing parenthesis that the bracket
`close` follows. -/
def attributePayload? (close : Char) : List Char → Option (List Char × List Char)
  | [] => none
  | c :: rest =>
    match if c = ')' then closedBy? close rest else none with
    | some after => some ([], after)
    | none => (attributePayload? close rest).map (fun (payload, after) => (c :: payload, after))

/-- What an attribute may be attached to. -/
def attributeTargets : List String := ["assembly", "module", "type", "method", "return", "param"]

/-- How a shape compares its words with the text. -/
abbrev WordReader := (word text : List Char) → Option (List Char)

/-- Skips a target and its colon, if they are there. -/
def skipTarget (read : WordReader) (text : List Char) : List Char :=
  let target? (name : String) := do
    let rest ← read name.toList text
    let rest ← after? [':'] (skipBlanks rest)
    return skipBlanks rest
  (attributeTargets.findSome? target?).getD text

/-- An attribute between brackets: a target or none, the qualified or plain name, and a payload
in parentheses. -/
def attributeShape (read : WordReader) (qualifier name : String) (opening close : Char) :
    Recogniser (List Char) := fun _ text => do
  let rest ← after? [opening] text
  let rest := skipTarget read (skipBlanks rest)
  let rest := (read qualifier.toList rest).getD rest
  let rest ← read name.toList rest
  let rest ← after? ['('] (skipBlanks rest)
  let (payload, rest) ← attributePayload? close rest
  return (payload, text.length - rest.length)

/-- A family of directives. -/
structure Family where
  category : Category
  label : String
  shape : Recogniser (List Char)
  judge : List Char → Option Verdict
  message : String → Verdict → String

namespace Family

def annotationGeneric : Family where
  category := .annotationGeneric
  label := "@SuppressWarnings"
  shape := annotationShape "@SuppressWarnings"
  judge := annotationVerdict
  message := annotationMessage

/-- No name is followed by a letter in its own shape, so the short annotation never takes a longer
one for itself. -/
def annotationVariant : Family where
  category := .annotationVariant
  label := "@Suppress"
  shape := annotationShape "@Suppress"
  judge := annotationVerdict
  message := annotationMessage

def bracketAttribute : Family where
  category := .bracketAttribute
  label := "[SuppressMessage]"
  shape := attributeShape after? "System.Diagnostics.CodeAnalysis." "SuppressMessage" '[' ']'
  judge := attributeVerdict
  message := attributeMessage

def angleAttribute : Family where
  category := .angleAttribute
  label := "<SuppressMessage>"
  shape := attributeShape afterAnyCase? "system.diagnostics.codeanalysis." "suppressmessage" '<' '>'
  judge := attributeVerdict
  message := attributeMessage

/-- What is said about a payload with a verdict on a line. -/
def finding (family : Family) (line : Nat) (verdict : Verdict) : Finding where
  reportLine := line
  evidenceLine := line
  category := family.category
  message := family.message family.label verdict
  rules := verdict.rules
  blanket := verdict.blanket

/-- Enters the occurrence at an offset, if its payload counts. -/
def enterSight (family : Family) (text : List Char) (ledger : Ledger) :
    Nat × List Char → Ledger
  | (offset, payload) =>
    match family.judge payload with
    | some verdict => ledger.enter (family.finding (lineAt text offset) verdict)
    | none => ledger

/-- Enters the occurrences of a family in a text, in the order of their offsets. -/
def enterAll (family : Family) (text : List Char) (ledger : Ledger) : Ledger :=
  (sights family.shape text).foldl (family.enterSight text) ledger

end Family

/-- The families in the order they are searched for. -/
def families : List Family :=
  [.annotationGeneric, .annotationVariant, .bracketAttribute, .angleAttribute]

end InlineAudit.Detect
