import InlineAudit.Yaml.Properties

/-!
The tokens of a YAML text, read on demand. Block structure comes from indents: a deeper column
opens a collection and a shallower one closes it. Whether a token is a key is known only at the
colon behind it, so the start of a possible key is remembered for each level of brackets, and the
tokens for it are put in afterwards. A token is handed out once two more tokens are read behind
it, and while it may still turn out to be a key, reading goes on. What follows is not looked at,
so an error in it does no harm to who needs no more tokens.
-/

namespace InlineAudit.Yaml

/-- What is remembered on a level of brackets: the token that turns out to be a key if a colon
follows. -/
structure KeySlot where
  /-- Cleared once the token cannot be a key any more. -/
  possible : Bool
  /-- Set when nothing but a key can stand there. -/
  required : Bool
  /-- The number of tokens before it. -/
  number : Nat
  place : Place
  deriving Repr, Inhabited

/-- Keys end on the line they start on, within this many characters. -/
def longestKey : Nat := 1024

/-- Looks whether a slot still holds a possible key, which is one on this line and not too far
away. A required key that cannot be one any more is an error. -/
def KeySlot.check? (slot : KeySlot) (place : Place) : Option KeySlot :=
  if slot.possible
      && (slot.place.line < place.line || slot.place.column + longestKey < place.column) then
    if slot.required then none else some { slot with possible := false }
  else some slot

/-- How deep collections may be nested, with brackets and with indents each. -/
def deepest : Nat := 10000

structure Scan where
  cursor : Cursor
  /-- The number of characters in the whole text. -/
  length : Nat
  /-- Set when there is more text, which cannot be read. -/
  broken : Bool := false
  /-- While more characters than this are left, each line loses its first one. -/
  markEnd : Option Nat := none
  /-- All tokens so far. -/
  tokens : Array Token := #[]
  /-- The number of tokens that are handed out. -/
  taken : Nat := 0
  /-- The column of the innermost block collection, minus one outside of any. -/
  indent : Int := -1
  /-- The columns of the block collections around it. -/
  indents : List Int := []
  /-- The slots of the levels of brackets; the first is that of the block level, and the last one
  that of the innermost brackets. -/
  slots : Array KeySlot := #[⟨false, false, 0, {}⟩]
  /-- The tokens that wait for a colon, by number, with the level of their slot. -/
  waiting : List (Nat × Nat) := []
  /-- Whether a key may start here. -/
  keyAllowed : Bool := true
  deriving Inhabited

namespace Scan

def inFlow (scan : Scan) : Bool := 1 < scan.slots.size

def place (scan : Scan) : Place := scan.cursor.place

def rest (scan : Scan) : List Char := scan.cursor.rest

def push (scan : Scan) (kind : Kind) (place : Place) : Scan :=
  { scan with tokens := scan.tokens.push ⟨kind, place.line + 1⟩ }

/-- Puts a token in at a number, or behind all others where that number is handed out. -/
def insert (scan : Scan) (number : Nat) (kind : Kind) (place : Place) : Scan :=
  if number < scan.taken then scan.push kind place
  else { scan with tokens := scan.tokens.insertIdxIfInBounds number ⟨kind, place.line + 1⟩ }

/-- Makes a token wait no longer. -/
def release (scan : Scan) (number : Nat) : Scan :=
  { scan with waiting := scan.waiting.filter (·.1 ≠ number) }

/-- Puts a slot in place of the one of the current level. -/
def setSlot (scan : Scan) (slot : KeySlot) : Scan :=
  { scan with slots := scan.slots.pop.push slot }

/-- Forgets the possible key of the current level, unless one is required. -/
def dropKey? (scan : Scan) : Option Scan :=
  match scan.slots.back? with
  | some slot =>
    if !slot.possible then some scan
    else if slot.required then none
    else some ((scan.release slot.number).setSlot { slot with possible := false })
  | none => some scan

/-- Remembers that the next token may be a key. -/
def saveKey? (scan : Scan) : Option Scan :=
  if scan.keyAllowed then
    scan.dropKey?.map fun scan =>
      let slot : KeySlot :=
        { possible := true
          required := !scan.inFlow && scan.indent = scan.place.column
          number := scan.tokens.size
          place := scan.place }
      let level := scan.slots.size - 1
      { scan.setSlot slot with waiting := (slot.number, level) :: scan.waiting }
  else some scan

/-- Opens a block collection if the column is deeper than the current one; its token goes to the
given place in the list. -/
def openBlock? (scan : Scan) (column number : Nat) (kind : Kind) (place : Place) : Option Scan :=
  if !scan.inFlow && scan.indent < column then
    if deepest ≤ scan.indents.length then none
    else
      some { scan.insert number kind place with
        indents := scan.indent :: scan.indents
        indent := column }
  else some scan

/-- Closes the block collections that are deeper than a column. -/
def closeBlocks (column : Int) (place : Place) : List Int → Scan → Scan
  | [], scan => scan
  | outer :: more, scan =>
    if column < scan.indent then
      closeBlocks column place more
        { scan.push .blockEnd place with indent := outer, indents := more }
    else scan

def closeTo (scan : Scan) (column : Int) : Scan :=
  if scan.inFlow then scan else closeBlocks column scan.place scan.indents scan

/-- The number of characters from the end of a comment to the next one, if only white space and
line feeds stand between them and it is not too far. -/
def commentAhead? (text : List Char) : Option Nat :=
  match text with
  | '\n' :: rest =>
    let count := (rest.takeWhile fun c => isSpace c || c = '\n').length
    if count + 1 < lookAhead && (rest.drop count).head? = some '#' then some (count + 1) else none
  | _ => none

/-- Where skipping stands. -/
inductive SkipMode where
  | blank
  | comment
  /-- Between two comments, with the number of characters to the second one. -/
  | between (left : Nat)
  deriving Repr, Inhabited

/-- Whether a line that starts with a text loses its first character. -/
def losesFirst (markEnd : Option Nat) (text : List Char) : Bool :=
  markEnd.any (· < text.length)

/-- Skips to the next token: the cursor there and whether a key may start there. Tabs are skipped
where no key can start, and between comments. -/
def skipToToken (flow : Bool) (markEnd : Option Nat) :
    (allowed : Bool) → SkipMode → Place → List Char → Cursor × Bool
  | allowed, _, place, [] => (⟨[], place⟩, allowed)
  | allowed, .between 0, place, _ :: rest =>
    skipToToken flow markEnd allowed .comment place.next rest
  | allowed, .between (left + 1), place, c :: rest =>
    skipToToken flow markEnd allowed (.between left)
      (if isBreak c then place.nextLine else place.next) rest
  | allowed, .comment, place, c :: rest =>
    if isBreak c then
      match commentAhead? (c :: rest) with
      | some count => skipToToken flow markEnd allowed (.between (count - 1)) place.nextLine rest
      | none => skipToToken flow markEnd (allowed || !flow) .blank place.nextLine rest
    else skipToToken flow markEnd allowed .comment place.next rest
  | allowed, .blank, place, c :: rest =>
    if (place.column = 0 && losesFirst markEnd (c :: rest)) || c = ' '
        || (c = '\t' && (flow || !allowed)) then
      skipToToken flow markEnd allowed .blank place.next rest
    else if c = '#' then skipToToken flow markEnd allowed .comment place.next rest
    else if isBreak c then
      skipToToken flow markEnd (allowed || !flow) .blank place.nextLine rest
    else (⟨c :: rest, place⟩, allowed)

def skip (scan : Scan) (n : Nat) : Scan := { scan with cursor := scan.cursor.skip n }

def skipLineComment (scan : Scan) : Scan := { scan with cursor := scan.cursor.skipLineComment }

/-- The end of the text, on a line of its own. -/
def streamEnd? (scan : Scan) : Option Scan :=
  let place := if scan.place.column = 0 then scan.place else scan.place.nextLine
  let scan := { scan with cursor := { scan.cursor with place := place } }
  (scan.closeTo (-1)).dropKey?.map fun scan =>
    { scan.push .streamEnd scan.place with keyAllowed := false }

def directiveToken? (scan : Scan) : Option Scan := do
  let scan ← (scan.closeTo (-1)).dropKey?
  let (kind, cursor) ← directive? (scan.cursor.skip 1)
  return { scan.push kind scan.place with cursor := cursor, keyAllowed := false }

def documentToken? (scan : Scan) (kind : Kind) : Option Scan :=
  (scan.closeTo (-1)).dropKey?.map fun scan =>
    { scan.push kind scan.place with cursor := scan.cursor.skip 3, keyAllowed := false }

/-- An opening bracket. -/
def openFlow? (scan : Scan) (kind : Kind) : Option Scan := do
  let scan ← scan.saveKey?
  if deepest < scan.slots.size then none
  else
    return { (scan.push kind scan.place).skip 1 with
      slots := scan.slots.push ⟨false, false, scan.tokens.size, scan.place⟩
      keyAllowed := true }

/-- Leaves a level of brackets. The token that its slot knows waits no longer. -/
def leaveFlow (scan : Scan) : Scan :=
  match scan.slots.back? with
  | some slot =>
    if scan.inFlow then { scan.release slot.number with slots := scan.slots.pop } else scan
  | none => scan

/-- A closing bracket. -/
def closeFlow? (scan : Scan) (kind : Kind) : Option Scan :=
  scan.dropKey?.map fun scan =>
    { (scan.leaveFlow.push kind scan.place).skip 1 with keyAllowed := false }

def flowEntry? (scan : Scan) : Option Scan :=
  scan.dropKey?.map fun scan =>
    { (scan.push .flowEntry scan.place).skip 1 with keyAllowed := true }

/-- The dash of a sequence. -/
def blockEntry? (scan : Scan) : Option Scan := do
  if !scan.inFlow && !scan.keyAllowed then none
  else
    let scan ← scan.openBlock? scan.place.column scan.tokens.size .blockSequenceStart scan.place
    let scan ← scan.dropKey?
    return { (scan.push .blockEntry scan.place).skip 1 with keyAllowed := true }

/-- The question mark of a key. -/
def keyToken? (scan : Scan) : Option Scan := do
  if !scan.inFlow && !scan.keyAllowed then none
  else
    let scan ← scan.openBlock? scan.place.column scan.tokens.size .blockMappingStart scan.place
    let scan ← scan.dropKey?
    return { (scan.push .key scan.place).skip 1 with keyAllowed := !scan.inFlow }

/-- The colon behind the key in a slot, which is known to be one from now on. -/
def valueOf? (scan : Scan) (slot : KeySlot) : Option Scan := do
  let scan := scan.insert slot.number .key slot.place
  let scan ← scan.openBlock? slot.place.column slot.number .blockMappingStart slot.place
  let scan := (scan.release slot.number).setSlot { slot with possible := false }
  return { (scan.push .value scan.place).skip 1 with keyAllowed := false }

/-- The colon of a key that was announced, or of none. -/
def lateValue? (scan : Scan) : Option Scan := do
  if !scan.inFlow && !scan.keyAllowed then none
  else
    let scan ← scan.openBlock? scan.place.column scan.tokens.size .blockMappingStart scan.place
    return { (scan.push .value scan.place).skip 1 with keyAllowed := !scan.inFlow }

/-- The colon between a key and its value. -/
def valueToken? (scan : Scan) : Option Scan :=
  match scan.slots.back? with
  | some slot =>
    (slot.check? scan.place).bind fun slot =>
      if slot.possible then scan.valueOf? slot else (scan.setSlot slot).lateValue?
  | none => scan.lateValue?

def anchorToken? (scan : Scan) (make : String → Kind) : Option Scan := do
  let scan ← scan.saveKey?
  let (name, cursor) ← anchorName? (scan.cursor.skip 1)
  return { scan.push (make name) scan.place with cursor := cursor, keyAllowed := false }

def tagToken? (scan : Scan) : Option Scan := do
  let scan ← scan.saveKey?
  let (kind, cursor) ← tag? scan.cursor
  return { scan.push kind scan.place with cursor := cursor, keyAllowed := false }

def blockScalarToken? (scan : Scan) (literal : Bool) : Option Scan := do
  let scan ← scan.dropKey?
  let (text, cursor) ← blockScalar? literal scan.indent (scan.cursor.skip 1)
  return { scan.push (.scalar (String.ofList text) false) scan.place with
    cursor := cursor
    keyAllowed := true }

def quotedToken? (scan : Scan) (mark : Char) : Option Scan := do
  let scan ← scan.saveKey?
  let (text, cursor) ← quotedScalar? mark .text [] .empty scan.place.next (scan.rest.drop 1)
  return { scan.push (.scalar (String.ofList text.reverse) false) scan.place with
    cursor := cursor
    keyAllowed := false }.skipLineComment

def plainToken? (scan : Scan) : Option Scan := do
  let scan ← scan.saveKey?
  let (text, gap, cursor) ←
    plainScalar? scan.inFlow (scan.indent + 1) [] .empty scan.place scan.rest
  let scan := { scan.push (.scalar (String.ofList text.reverse) true) scan.place with
    cursor := cursor
    keyAllowed := gap.hasBreak }
  return if gap.hasBreak then scan else scan.skipLineComment

/-- The characters that cannot start a plain scalar. -/
def indicators : List Char :=
  ['-', '?', ':', ',', '[', ']', '\x7b', '\x7d', '#', '&', '*', '!', '|', '>', '\'', '"', '%',
   '@', '\x60', '\t']

/-- Whether a plain scalar may start with a character. -/
def startsPlain (flow : Bool) (c : Char) (rest : List Char) : Bool :=
  !indicators.contains c
    || (c = '-' && !(rest.head?.map isSpace).getD false)
    || (!flow && (c = '?' || c = ':') && !gapAhead rest)

/-- Reads the token that starts with a character, on a line of its own or not. -/
def token? (scan : Scan) (c : Char) (rest : List Char) : Option Scan :=
  let flow := scan.inFlow
  match c with
  | '[' => (scan.openFlow? .flowSequenceStart).map skipLineComment
  | '\x7b' => (scan.openFlow? .flowMappingStart).map skipLineComment
  | ']' => (scan.closeFlow? .flowSequenceEnd).map skipLineComment
  | '\x7d' => (scan.closeFlow? .flowMappingEnd).map skipLineComment
  | ',' => scan.flowEntry?.map skipLineComment
  | '*' => (scan.anchorToken? .alias).map skipLineComment
  | '&' => (scan.anchorToken? .anchor).map skipLineComment
  | '!' => scan.tagToken?.map skipLineComment
  | '\'' => scan.quotedToken? '\''
  | '"' => scan.quotedToken? '"'
  | c =>
    if c = '-' && gapAhead rest then scan.blockEntry?
    else if c = '?' && (flow || gapAhead rest) then scan.keyToken?.map skipLineComment
    else if c = ':' && (flow || gapAhead rest) then scan.valueToken?.map skipLineComment
    else if c = '|' && !flow then scan.blockScalarToken? true
    else if c = '>' && !flow then scan.blockScalarToken? false
    else if startsPlain flow c rest then scan.plainToken?
    else none

/-- Reads the token at the cursor, where four characters are looked at in any case. -/
def tokenHere? (scan : Scan) : Option Scan :=
  match scan.rest with
  | [] => scan.streamEnd?
  | c :: rest =>
    if scan.place.column = 0 && c = '%' then scan.directiveToken?
    else if scan.place.column = 0 then
      match documentMark? (c :: rest) with
      | some kind => scan.documentToken? kind
      | none => scan.token? c rest
    else scan.token? c rest

/-- Reads the next token. Nothing is read that needs to know what cannot be read. -/
def step? (scan : Scan) : Option Scan :=
  let (cursor, allowed) :=
    skipToToken scan.inFlow scan.markEnd scan.keyAllowed .blank scan.place scan.rest
  let scan := { scan with cursor := cursor, keyAllowed := allowed }
  let scan := scan.closeTo scan.place.column
  if scan.broken && (scan.rest.drop 3).isEmpty then none
  else
    let markEnd := scan.markEnd.filter fun n => losesFirst (some n) (scan.rest.drop 3)
    ({ scan with markEnd := markEnd }.tokenHere?).filter fun next =>
      !(next.broken && next.rest.isEmpty)

/-- The level whose slot decides whether more must be read before the next token is handed out. -/
def waitingLevel? (scan : Scan) : Option Nat := scan.waiting.lookup scan.taken

/-- Looks at the slot of a level again: whether it holds a possible key, and the scan after that. -/
def checkLevel? (scan : Scan) (level : Nat) : Option (Bool × Scan) :=
  match scan.slots[level]? with
  | none => some (false, scan)
  | some slot =>
    (slot.check? scan.place).map fun checked =>
      (checked.possible, { scan with slots := scan.slots.setIfInBounds level checked })

/-- Reads until the next token can be handed out. -/
def settle? : (fuel : Nat) → Scan → Option Scan
  | 0, scan => some scan
  | fuel + 1, scan =>
    if scan.tokens.size < scan.taken + 3 then scan.step?.bind (settle? fuel)
    else match scan.waitingLevel? with
      | none => some scan
      | some level =>
        (scan.checkLevel? level).bind fun (possible, scan) =>
          if possible then scan.step?.bind (settle? fuel) else some scan

/-- The next token, which stays where it is. Each step takes a character at least; at the end of
the text no more than three tokens are made. -/
def peek? (scan : Scan) : Option (Token × Scan) := do
  let scan ← scan.settle? (scan.length + 4)
  let token ← scan.tokens[scan.taken]?
  return (token, scan)

/-- Takes the next token. -/
def take (scan : Scan) : Scan := { scan with taken := scan.taken + 1 }

/-- The start of a text. A mark of the encoding that stands there twice is taken to stand at the
start of every line of the first portion. -/
def ofInput (input : Input) : Scan :=
  { cursor := ⟨input.chars, {}⟩
    length := input.chars.length
    broken := input.broken
    markEnd := if input.chars.head? = some '\uFEFF' then some input.later else none }

end Scan

end InlineAudit.Yaml
