import InlineAudit.Ignore.Expression
import InlineAudit.Text.Property

/-!
Reading expressions. Alternatives are separated by a bar, parentheses group, a repetition sign
applies to the item before it, and a backslash introduces classes, anchors and single characters.
A text that is no expression is refused: an unmatched bracket, a repetition of nothing or of a
repetition, an unknown escape, a range from a later to an earlier character, a repetition beyond
one thousand.
-/

namespace InlineAudit.Ignore

/-- A class of one character. -/
def single (n : Nat) : Expr := .one ⟨false, [.range n n]⟩

/-- Any character but the line feed. -/
def anyButLineFeed : Expr := .one ⟨true, [.range 10 10]⟩

def digitRanges : List (Nat × Nat) := [(0x30, 0x39)]

def spaceRanges : List (Nat × Nat) := [(0x9, 0xA), (0xC, 0xD), (0x20, 0x20)]

def wordRanges : List (Nat × Nat) := [(0x30, 0x39), (0x41, 0x5A), (0x5F, 0x5F), (0x61, 0x7A)]

def inside (ranges : List (Nat × Nat)) : List ClassItem :=
  ranges.map fun (first, last) => .range first last

/-- The classes that a backslash and a letter stand for. -/
def letterClass? : Char → Option (List ClassItem)
  | 'd' => some (inside digitRanges)
  | 'D' => some [.outside digitRanges]
  | 's' => some (inside spaceRanges)
  | 'S' => some [.outside spaceRanges]
  | 'w' => some (inside wordRanges)
  | 'W' => some [.outside wordRanges]
  | _ => none

/-- The named classes inside brackets. -/
def namedRanges : List (String × List (Nat × Nat)) :=
  [("alnum", [(0x30, 0x39), (0x41, 0x5A), (0x61, 0x7A)]),
   ("alpha", [(0x41, 0x5A), (0x61, 0x7A)]),
   ("ascii", [(0x0, 0x7F)]),
   ("blank", [(0x9, 0x9), (0x20, 0x20)]),
   ("cntrl", [(0x0, 0x1F), (0x7F, 0x7F)]),
   ("digit", digitRanges),
   ("graph", [(0x21, 0x7E)]),
   ("lower", [(0x61, 0x7A)]),
   ("print", [(0x20, 0x7E)]),
   ("punct", [(0x21, 0x2F), (0x3A, 0x40), (0x5B, 0x60), (0x7B, 0x7E)]),
   ("space", [(0x9, 0xD), (0x20, 0x20)]),
   ("upper", [(0x41, 0x5A)]),
   ("word", wordRanges),
   ("xdigit", [(0x30, 0x39), (0x41, 0x46), (0x61, 0x66)])]

/-- The class that a name between brackets and colons stands for; a caret turns it round. -/
def namedClass? : (name : List Char) → Option (List ClassItem)
  | '^' :: name => (namedRanges.lookup (String.ofList name)).map fun ranges => [.outside ranges]
  | name => (namedRanges.lookup (String.ofList name)).map inside

/-- What stands between the brackets and colons of a named class, and what follows it. -/
def upToColonBracket? : List Char → Option (List Char × List Char)
  | ':' :: ']' :: rest => some ([], rest)
  | c :: rest => (upToColonBracket? rest).map fun (name, rest) => (c :: name, rest)
  | [] => none

/-- The name of a property, one character or a text in braces, and what follows it. -/
def propertyName? : List Char → Option (List Char × List Char)
  | [] => none
  | c :: rest =>
    if c = '\x7b' then
      match rest.dropWhile (· ≠ '\x7d') with
      | [] => none
      | _ :: after => some (rest.takeWhile (· ≠ '\x7d'), after)
    else some ([c], rest)

/-- The class of a property and what follows its name. A capital letter before the name turns the
class round, and so does a caret in the braces. -/
def propertyClass? (capital : Bool) (text : List Char) : Option (List ClassItem × List Char) := do
  let (name, rest) ← propertyName? text
  let (caret, name) := match name with
    | '^' :: name => (true, name)
    | name => (false, name)
  let runs ← Text.propertyRuns? name
  return (if capital = caret then inside runs else [.outside runs], rest)

def hexValue? (c : Char) : Option Nat :=
  if c.isDigit then some (c.toNat - 0x30)
  else if 'a' ≤ c && c ≤ 'f' then some (c.toNat - 0x57)
  else if 'A' ≤ c && c ≤ 'F' then some (c.toNat - 0x37)
  else none

def isOctalDigit (c : Char) : Bool := '0' ≤ c && c ≤ '7'

def octalValue (digits : List Char) : Nat :=
  digits.foldl (fun n c => n * 8 + (c.toNat - 0x30)) 0

/-- The digits of a code point up to the closing brace, at least one of them. -/
def bracedHex? (value count : Nat) : List Char → Option (Nat × List Char)
  | [] => none
  | c :: rest =>
    if c = '\x7d' then if count = 0 then none else some (value, rest)
    else match hexValue? c with
      | none => none
      | some v => if value * 16 + v > 0x10FFFF then none else bracedHex? (value * 16 + v) (count + 1) rest

/-- The code point that an escape stands for; the backslash is already read. -/
def escaped? : List Char → Option (Nat × List Char)
  | [] => none
  | 'a' :: rest => some (7, rest)
  | 'f' :: rest => some (12, rest)
  | 'n' :: rest => some (10, rest)
  | 'r' :: rest => some (13, rest)
  | 't' :: rest => some (9, rest)
  | 'v' :: rest => some (11, rest)
  | 'x' :: '\x7b' :: rest => bracedHex? 0 0 rest
  | 'x' :: a :: b :: rest => do
    let high ← hexValue? a
    let low ← hexValue? b
    return (high * 16 + low, rest)
  | c :: rest =>
    if isOctalDigit c then
      let more := (rest.take 2).takeWhile isOctalDigit
      if c ≠ '0' && more.isEmpty then none
      else some (octalValue (c :: more), rest.drop more.length)
    else if c.toNat < 0x80 && !c.isAlphanum then some (c.toNat, rest)
    else none

/-- One character of a class, plain or escaped. -/
def classChar? : List Char → Option (Nat × List Char)
  | [] => none
  | '\\' :: rest => escaped? rest
  | c :: rest => some (c.toNat, rest)

/-- The items of a class up to its closing bracket. In the first place a closing bracket is a
plain character. Fuel is the length of the text. -/
def classItems? : (fuel : Nat) → (first : Bool) → List Char → Option (List ClassItem × List Char)
  | 0, _, _ => none
  | fuel + 1, first, text =>
    match first, text with
    | false, ']' :: rest => some ([], rest)
    | _, text => do
      let (items, rest) ← classItem? text
      let (more, rest) ← classItems? fuel false rest
      return (items ++ more, rest)
where
  /-- A range, or a single character as a range of its own. -/
  classRange? (text : List Char) : Option (List ClassItem × List Char) := do
    let (first, rest) ← classChar? text
    match rest with
    | '-' :: next :: more =>
      if next = ']' then return ([.range first first], rest)
      let (last, rest) ← classChar? (next :: more)
      if last < first then none
      else return ([.range first last], rest)
    | _ => return ([.range first first], rest)
  classItem? (text : List Char) : Option (List ClassItem × List Char) :=
    match text with
    | '[' :: ':' :: c :: rest =>
      match upToColonBracket? (c :: rest) with
      | some (name, rest) => (namedClass? name).map (·, rest)
      | none => classRange? text
    | '\\' :: 'p' :: rest => propertyClass? false rest
    | '\\' :: 'P' :: rest => propertyClass? true rest
    | '\\' :: c :: rest =>
      match letterClass? c with
      | some items => some (items, rest)
      | none => classRange? text
    | text => classRange? text

/-- A class; the opening bracket is already read. -/
def class? (text : List Char) : Option (CharClass × List Char) :=
  match text with
  | '^' :: rest => (classItems? (rest.length + 1) true rest).map fun (items, rest) => (⟨true, items⟩, rest)
  | rest => (classItems? (rest.length + 1) true rest).map fun (items, rest) => (⟨false, items⟩, rest)

/-- A number without leading zeros. -/
def bound? (text : List Char) : Option (Nat × List Char) :=
  let digits := text.takeWhile Char.isDigit
  if digits.isEmpty || (digits.length > 1 && digits.head? = some '0') then none
  else some (digits.foldl (fun n c => n * 10 + (c.toNat - 0x30)) 0, text.drop digits.length)

/-- The bounds of a repetition in braces; the opening brace is already read. -/
def bounds? (text : List Char) : Option (Nat × Option Nat × List Char) := do
  let (least, rest) ← bound? text
  match rest with
  | ',' :: rest =>
    match rest with
    | c :: more =>
      if c = '\x7d' then return (least, none, more)
      let (most, rest) ← bound? rest
      match rest with
      | d :: more => if d = '\x7d' then return (least, some most, more) else none
      | [] => none
    | [] => none
  | c :: more => if c = '\x7d' then return (least, some least, more) else none
  | [] => none

/-- The most often that anything may be repeated, repetitions inside repetitions multiplied. -/
def maxRepeat : Nat := 1000

/-- Whether nested repetitions stay within a budget. -/
def Expr.withinBudget (budget : Nat) : Expr → Bool
  | .seq first second => first.withinBudget budget && second.withinBudget budget
  | .alt left right => left.withinBudget budget && right.withinBudget budget
  | .rep least most inner =>
    let times := most.getD least
    if times = 0 then most.isSome || inner.withinBudget budget
    else times ≤ budget && inner.withinBudget (budget / times)
  | _ => true

/-- Puts items, last first, behind each other. -/
def sequenceOf (items : List Expr) : Expr :=
  items.foldl (fun rest item => if rest == .empty then item else .seq item rest) .empty

/-- The literal characters between the two ends of a quotation, and what follows it. -/
def quotation : List Char → List Char × List Char
  | '\\' :: 'E' :: rest => ([], rest)
  | c :: rest => let (quoted, rest) := quotation rest; (c :: quoted, rest)
  | [] => ([], [])

mutual

/-- Alternatives up to a closing parenthesis or the end. -/
def alternatives? : (fuel : Nat) → List Char → Option (Expr × List Char)
  | 0, _ => none
  | fuel + 1, text => do
    let (first, rest) ← items? fuel [] false text
    match rest with
    | '|' :: rest =>
      let (more, rest) ← alternatives? fuel rest
      return (.alt first more, rest)
    | rest => return (first, rest)

/-- The items of one alternative. `done` holds the items so far, last first, and `repeated` tells
whether the last of them has its repetition sign already. -/
def items? : (fuel : Nat) → (done : List Expr) → (repeated : Bool) → List Char →
    Option (Expr × List Char)
  | 0, _, _, _ => none
  | fuel + 1, done, repeated, text =>
    let repeatLast (least : Nat) (most : Option Nat) (rest : List Char) :
        Option (Expr × List Char) :=
      match done with
      | [] => none
      | last :: done =>
        let expr := Expr.rep least most last
        if repeated || !expr.withinBudget maxRepeat then none
        else
          let rest := match rest with
            | '?' :: rest => rest
            | rest => rest
          items? fuel (expr :: done) true rest
    match text with
    | [] => some (sequenceOf done, [])
    | '|' :: _ => some (sequenceOf done, text)
    | ')' :: _ => some (sequenceOf done, text)
    | '(' :: rest => do
      let (inner, rest) ← alternatives? fuel rest
      match rest with
      | ')' :: rest => items? fuel (inner :: done) false rest
      | _ => none
    | '*' :: rest => repeatLast 0 none rest
    | '+' :: rest => repeatLast 1 none rest
    | '?' :: rest => repeatLast 0 (some 1) rest
    | '\x7b' :: rest =>
      match bounds? rest with
      | none => items? fuel (single 0x7B :: done) false rest
      | some (least, most, after) =>
        if least > maxRepeat || most.any (fun most => most > maxRepeat || least > most) then none
        else repeatLast least most after
    | '[' :: rest => do
      let (cls, rest) ← class? rest
      items? fuel (.one cls :: done) false rest
    | '.' :: rest => items? fuel (anyButLineFeed :: done) false rest
    | '^' :: rest => items? fuel (.start :: done) false rest
    | '$' :: rest => items? fuel (.finish :: done) false rest
    | '\\' :: 'A' :: rest => items? fuel (.start :: done) false rest
    | '\\' :: 'z' :: rest => items? fuel (.finish :: done) false rest
    | '\\' :: 'b' :: rest => items? fuel (.edge true :: done) false rest
    | '\\' :: 'B' :: rest => items? fuel (.edge false :: done) false rest
    | '\\' :: 'Q' :: rest =>
      let (quoted, rest) := quotation rest
      items? fuel ((quoted.map (single ·.toNat)).reverse ++ done) false rest
    | '\\' :: 'p' :: rest => do
      let (items, rest) ← propertyClass? false rest
      items? fuel (.one ⟨false, items⟩ :: done) false rest
    | '\\' :: 'P' :: rest => do
      let (items, rest) ← propertyClass? true rest
      items? fuel (.one ⟨false, items⟩ :: done) false rest
    | '\\' :: rest =>
      match rest.head?.bind letterClass? with
      | some cls => items? fuel (.one ⟨false, cls⟩ :: done) false rest.tail
      | none => do
        let (n, rest) ← escaped? rest
        items? fuel (single n :: done) false rest
    | c :: rest => items? fuel (single c.toNat :: done) false rest

end

/-- The expression that a text stands for, if it stands for one. -/
def Expr.read? (text : List Char) : Option Expr :=
  match alternatives? (2 * text.length + 2) text with
  | some (expr, []) => some expr
  | _ => none

end InlineAudit.Ignore
