import InlineAudit.Text.Quoted
import InlineAudit.Yaml.Token

/-!
The three written forms of scalars: plain, between quotes, and as a block of lines. Line breaks
inside a scalar are folded: a single one stands for a space, of several the first is dropped.
-/

namespace InlineAudit.Yaml

/-- White space inside a scalar that is not written yet, as later text decides what it means.
Lists are in reverse. -/
inductive Gap where
  | spaces (chars : List Char)
  /-- A line break, which is none when it was escaped, and those that follow. -/
  | breaks (first : Option Char) (more : List Char)
  deriving Repr, Inhabited

namespace Gap

def empty : Gap := .spaces []

def isEmpty : Gap → Bool
  | .spaces chars => chars.isEmpty
  | .breaks _ _ => false

def hasBreak : Gap → Bool
  | .spaces _ => false
  | .breaks _ _ => true

def pushSpace (c : Char) : Gap → Gap
  | .spaces chars => .spaces (c :: chars)
  | .breaks first more => .breaks first more

def pushBreak (c : Char) : Gap → Gap
  | .spaces _ => .breaks (some c) []
  | .breaks first more => .breaks first (c :: more)

/-- What a gap stands for between two pieces of text, in reverse. -/
def folded : Gap → List Char
  | .spaces chars => chars
  | .breaks (some '\n') [] => [' ']
  | .breaks (some '\n') more => more
  | .breaks first more => more ++ first.toList

end Gap

/-- The characters that end a plain scalar inside brackets. -/
def flowMarks : List Char := [',', '?', '[', ']', '\x7b', '\x7d']

/-- Reads a plain scalar: its text in reverse, the white space behind it and where it ends. The
argument `indent` is the least column of its further lines. -/
def plainScalar? (flow : Bool) (indent : Int) (text : List Char) (gap : Gap) (place : Place) :
    List Char → Option (List Char × Gap × Cursor)
  | [] => some (text, gap, ⟨[], place⟩)
  | c :: rest =>
    if isBreak c then
      plainScalar? flow indent text (gap.pushBreak (breakText c)) place.nextLine rest
    else if isSpace c then
      if gap.hasBreak && place.column < indent && c = '\t' then none
      else plainScalar? flow indent text (gap.pushSpace c) place.next rest
    else if (place.column = 0 && (documentMark? (c :: rest)).isSome)
        || (c = '#' && !gap.isEmpty)
        || (!flow && gap.hasBreak && place.column < indent)
        || (c = ':' && gapAhead rest)
        || (flow && flowMarks.contains c) then
      some (text, gap, ⟨c :: rest, place⟩)
    else plainScalar? flow indent (c :: gap.folded ++ text) .empty place.next rest

/-- What a quoted scalar waits for. -/
inductive QuoteMode where
  | text
  /-- The second one of two quotes. -/
  | quote
  /-- The character behind a backslash. -/
  | escape
  /-- Further digits of a code point. -/
  | code (left value : Nat)
  deriving Repr, Inhabited

/-- The character that a backslash and another character stand for. -/
def simpleEscape? (c : Char) : Option Char :=
  match c with
  | '0' => some '\x00'
  | 'a' => some '\x07'
  | 'b' => some '\x08'
  | 't' | '\t' => some '\t'
  | 'n' => some '\n'
  | 'v' => some '\x0b'
  | 'f' => some '\x0c'
  | 'r' => some '\r'
  | 'e' => some '\x1b'
  | ' ' => some ' '
  | '"' => some '"'
  | '\'' => some '\''
  | '\\' => some '\\'
  | 'N' => some '\u0085'
  | '_' => some '\u00a0'
  | 'L' => some '\u2028'
  | 'P' => some '\u2029'
  | _ => none

/-- The number of digits of a code point behind a backslash and a letter. -/
def codeLength? (c : Char) : Option Nat :=
  match c with
  | 'x' => some 2
  | 'u' => some 4
  | 'U' => some 8
  | _ => none

def hexValue? (c : Char) : Option Nat :=
  if c.isDigit then some (c.toNat - '0'.toNat)
  else if 'a' ≤ c.toLower && c.toLower ≤ 'f' then some (c.toLower.toNat - 'a'.toNat + 10)
  else none

/-- Reads a scalar up to its closing quote, which is dropped; the text is in reverse. -/
def quotedScalar? (mark : Char) (mode : QuoteMode) (text : List Char) (gap : Gap) (place : Place) :
    List Char → Option (List Char × Cursor)
  | [] => none
  | c :: rest =>
    match mode with
    | .quote => quotedScalar? mark .text (mark :: text) .empty place.next rest
    | .escape =>
      if isBreak c then quotedScalar? mark .text text (.breaks none []) place.nextLine rest
      else match simpleEscape? c, codeLength? c with
        | some d, _ => quotedScalar? mark .text (d :: text) .empty place.next rest
        | none, some count => quotedScalar? mark (.code count 0) text .empty place.next rest
        | none, none => none
    | .code left value =>
      match hexValue? c with
      | none => none
      | some d =>
        let value := value * 16 + d
        if 1 < left then quotedScalar? mark (.code (left - 1) value) text .empty place.next rest
        else if value.isValidChar then
          quotedScalar? mark .text (Char.ofNat value :: text) .empty place.next rest
        else none
    | .text =>
      if isBreak c then
        quotedScalar? mark .text text (gap.pushBreak (breakText c)) place.nextLine rest
      else if isSpace c then quotedScalar? mark .text text (gap.pushSpace c) place.next rest
      else if place.column = 0 && (documentMark? (c :: rest)).isSome then none
      else if c = mark then
        if mark = '\'' && rest.head? = some mark then
          quotedScalar? mark .quote (gap.folded ++ text) .empty place.next rest
        else some (gap.folded ++ text, ⟨rest, place.next⟩)
      else if mark = '"' && c = '\\' then
        quotedScalar? mark .escape (gap.folded ++ text) .empty place.next rest
      else quotedScalar? mark .text (c :: gap.folded ++ text) .empty place.next rest

/-- What happens to the line breaks at the end of a block. -/
inductive Chomp where
  | strip
  | clip
  | keep
  deriving DecidableEq, Repr, Inhabited

def chomp? (c : Char) : Option Chomp :=
  if c = '+' then some .keep else if c = '-' then some .strip else none

/-- A digit for the indent of a block, which is not zero. -/
def indentDigit? (c : Char) : Option Nat :=
  if c.isDigit && c ≠ '0' then some (c.toNat - '0'.toNat) else none

/-- The indicators behind the mark of a block, with what follows them; zero stands for an indent
that is to be found out. -/
def blockIndicators? (text : List Char) : Option (Chomp × Nat × List Char) :=
  match text with
  | [] => some (.clip, 0, [])
  | c :: rest =>
    match chomp? c with
    | some chomp =>
      match rest with
      | [] => some (chomp, 0, [])
      | d :: more =>
        if d.isDigit then (indentDigit? d).map (chomp, ·, more) else some (chomp, 0, rest)
    | none =>
      if c.isDigit then
        (indentDigit? c).map fun indent =>
          match rest with
          | [] => (.clip, indent, [])
          | d :: more =>
            match chomp? d with
            | some chomp => (chomp, indent, more)
            | none => (.clip, indent, rest)
      else some (.clip, 0, text)

/-- The lines of a text with the line break that ends each; the last one has none. -/
def rawLines : List Char → List (List Char × Option Char)
  | [] => [([], none)]
  | c :: rest =>
    if isBreak c then ([], some c) :: rawLines rest
    else match rawLines rest with
      | (line, brk) :: more => (c :: line, brk) :: more
      | [] => [([c], none)]

/-- The indent of the first line that is not empty, but at least that of the empty lines before
it. A tab in that place is an error. -/
def findIndent? (widest : Nat) : List (List Char × Option Char) → Option Nat
  | [] => some widest
  | (line, brk) :: more =>
    let spaces := (line.takeWhile (· = ' ')).length
    let rest := line.drop spaces
    let widest := max widest spaces
    if rest.head? = some '\t' then none
    else if rest.isEmpty && brk.isSome then findIndent? widest more
    else some widest

/-- A block that is being read; the texts are in reverse. -/
structure Block where
  text : List Char := []
  /-- The line break at the end of the last line. -/
  lineBreak : Option Char := none
  /-- The line breaks of the empty lines behind it. -/
  emptyLines : List Char := []
  /-- Set when the last line starts with white space. -/
  indented : Bool := false
  deriving Repr, Inhabited

/-- The block after one more line that is not empty. -/
def Block.push (literal : Bool) (block : Block) (line : List Char) (brk : Option Char) : Block :=
  let indented := (line.head?.map isSpace).getD false
  let joint :=
    if !literal && !block.indented && !indented && block.lineBreak = some '\n' then
      if block.emptyLines.isEmpty then [' '] else block.emptyLines
    else block.emptyLines ++ block.lineBreak.toList
  { text := line.reverse ++ joint ++ block.text
    lineBreak := brk
    emptyLines := []
    indented := indented }

/-- The text of a finished block. -/
def Block.finish (chomp : Chomp) (block : Block) : List Char :=
  let tail :=
    match chomp with
    | .strip => []
    | .clip => block.lineBreak.toList
    | .keep => block.emptyLines ++ block.lineBreak.toList
  (tail ++ block.text).reverse

/-- Reads the lines of a block: the block, the number of lines taken and those that are left. -/
def blockLines? (literal : Bool) (indent : Nat) (block : Block) (taken : Nat) :
    List (List Char × Option Char) → Option (Block × Nat × List (List Char × Option Char))
  | [] => some (block, taken, [])
  | (line, brk) :: more =>
    let spaces := min indent (line.takeWhile (· = ' ')).length
    let content := line.drop spaces
    if spaces < indent && content.head? = some '\t' then none
    else if content.isEmpty then
      match brk with
      | some b =>
        blockLines? literal indent { block with emptyLines := breakText b :: block.emptyLines }
          (taken + 1) more
      | none => some (block, taken, [])
    else if spaces = indent then
      blockLines? literal indent (block.push literal content (brk.map breakText)) (taken + 1) more
    else some (block, taken, (line, brk) :: more)

/-- Reads a block scalar behind its mark. The argument `parent` is the indent of what the block
belongs to. -/
def blockScalar? (literal : Bool) (parent : Int) (cursor : Cursor) :
    Option (List Char × Cursor) := do
  let (chomp, increment, rest) ← blockIndicators? cursor.rest
  let rest := rest.dropWhile isSpace
  let rest := if rest.head? = some '#' then rest.dropWhile (!isBreak ·) else rest
  if !lineEnds rest then none
  else
    let lines := rawLines (rest.drop 1)
    let indent ←
      if increment = 0 then
        (findIndent? 0 lines).map fun found => max (max found (parent + 1).toNat) 1
      else some ((max parent 0).toNat + increment)
    let (block, taken, left) ← blockLines? literal indent {} 0 lines
    let remaining := left.flatMap fun (line, brk) => line ++ brk.toList
    return (block.finish chomp, ⟨remaining, ⟨cursor.place.line + 1 + taken, 0⟩⟩)

end InlineAudit.Yaml
