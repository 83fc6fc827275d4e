/-!
The tokens of YAML, each with the line it starts on, and the character classes they are read by.
Carriage returns are reduced to line feeds before anything is read.
-/

namespace InlineAudit.Yaml

inductive Kind where
  | streamEnd
  | version (major minor : Nat)
  | tagDirective (handle stem : String)
  | documentStart
  | documentEnd
  | blockSequenceStart
  | blockMappingStart
  | blockEnd
  | flowSequenceStart
  | flowSequenceEnd
  | flowMappingStart
  | flowMappingEnd
  | blockEntry
  | flowEntry
  | key
  | value
  | alias (name : String)
  | anchor (name : String)
  | tag (handle suffix : String)
  | scalar (text : String) (plain : Bool)
  deriving DecidableEq, Repr, Inhabited

structure Token where
  kind : Kind
  /-- The line of the first character, counted from one. -/
  line : Nat
  deriving DecidableEq, Repr, Inhabited

/-- A place in the text; lines and columns count from zero. -/
structure Place where
  line : Nat := 0
  column : Nat := 0
  deriving DecidableEq, Repr, Inhabited

def Place.next (place : Place) : Place := { place with column := place.column + 1 }

def Place.nextLine (place : Place) : Place := ⟨place.line + 1, 0⟩

def Place.skip (place : Place) (n : Nat) : Place := { place with column := place.column + n }

/-- A place and the text that follows. -/
structure Cursor where
  rest : List Char
  place : Place := {}
  deriving DecidableEq, Repr, Inhabited

/-- The cursor some characters further on the same line. -/
def Cursor.skip (cursor : Cursor) (n : Nat) : Cursor :=
  ⟨cursor.rest.drop n, cursor.place.skip n⟩

def isBreak (c : Char) : Bool := c = '\n' || c = '\u0085' || c = '\u2028' || c = '\u2029'

/-- What a line break reads as inside a scalar: only the two Unicode separators stay. -/
def breakText (c : Char) : Char := if c = '\u0085' then '\n' else c

def isSpace (c : Char) : Bool := c = ' ' || c = '\t'

/-- Whether a text is at an end or starts with white space. -/
def gapAhead (text : List Char) : Bool :=
  match text with
  | [] => true
  | c :: _ => isSpace c || isBreak c

/-- Whether a line is at its end. -/
def lineEnds (text : List Char) : Bool :=
  match text with
  | [] => true
  | c :: _ => isBreak c

/-- Characters of anchors, tag handles and directive names. -/
def isNameChar (c : Char) : Bool := c.isAlphanum || c = '_' || c = '-'

/-- Whether a line starts with one of the marks that separate documents. -/
def documentMark? (text : List Char) : Option Kind :=
  match text with
  | '-' :: '-' :: '-' :: rest => if gapAhead rest then some .documentStart else none
  | '.' :: '.' :: '.' :: rest => if gapAhead rest then some .documentEnd else none
  | _ => none

/-- Drops spaces and tabs. -/
def Cursor.skipSpaces (cursor : Cursor) : Cursor :=
  cursor.skip (cursor.rest.takeWhile isSpace).length

/-- Drops the rest of the line. -/
def Cursor.skipToBreak (cursor : Cursor) : Cursor :=
  cursor.skip (cursor.rest.takeWhile (!isBreak ·)).length

/-- How many characters are looked through for a comment. -/
def lookAhead : Nat := 512

/-- Drops spaces and a comment behind a token on the same line; without a comment nothing. -/
def Cursor.skipLineComment (cursor : Cursor) : Cursor :=
  let spaces := (cursor.rest.takeWhile isSpace).length
  if spaces < lookAhead && (cursor.rest.drop spaces).head? = some '#' then cursor.skipToBreak
  else cursor

end InlineAudit.Yaml
