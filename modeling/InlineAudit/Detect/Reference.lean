import InlineAudit.Detect.Search
import InlineAudit.Text.Blank
import InlineAudit.Text.Word

/-!
Rule references. A reference is `S` and at least three digits, alone or behind the prefix of a
language and a colon. References with a prefix win: if a text has one, the others are not looked
for at all.
-/

namespace InlineAudit.Detect

open Text

/-- The language prefixes a reference may carry. -/
def rulePrefixes : List String :=
  ["java", "squid", "csharpsquid", "javascript", "typescript", "python", "kotlin",
   "php", "ruby", "go", "scala", "vbnet", "xml", "css", "web", "plsql", "tsql",
   "c", "cpp", "objc", "swift", "abap", "cobol", "flex"]

def isDigit (c : Char) : Bool := '0' ≤ c && c ≤ '9'

/-- The digits of a rule number at the head of a text, at least three, and what follows them. -/
def ruleNumber? (text : List Char) : Option (List Char × List Char) :=
  let digits := text.takeWhile isDigit
  if digits.length < 3 then none else some (digits, text.dropWhile isDigit)

/-- A language prefix, a colon and a rule key, with white space around the colon or none. -/
def prefixedAt? (language : String) (text : List Char) : Option (String × Nat) := do
  let rest ← after? language.toList text
  let rest ← after? [':'] (skipBlanks rest)
  let rest ← after? ['S'] (skipBlanks rest)
  let (digits, rest) ← ruleNumber? rest
  return (language ++ ":S" ++ String.ofList digits, text.length - rest.length)

/-- A reference with a prefix, at the start of a word. It is told without white space. -/
def prefixedReference : Recogniser String := fun before text =>
  if neighbourIsWord before then none else rulePrefixes.findSome? (prefixedAt? · text)

/-- A reference without a prefix that is a word of its own. -/
def bareReference : Recogniser String := fun before text =>
  if neighbourIsWord before then none
  else do
    let rest ← after? ['S'] text
    let (digits, rest) ← ruleNumber? rest
    if neighbourIsWord rest.head? then none
    else return ("S" ++ String.ofList digits, text.length - rest.length)

/-- The rule references of a text, each once, in the order they first appear. -/
def ruleReferences (text : List Char) : List String :=
  match (sights prefixedReference text).map (·.2) with
  | [] => ((sights bareReference text).map (·.2)).eraseDups
  | found => found.eraseDups

end InlineAudit.Detect
