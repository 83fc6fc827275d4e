import InlineAudit.Text.Symbol

/-!
From bytes to the characters of a YAML text. A byte order mark tells the encoding, which is UTF-8
without one. Bytes are taken in portions, and a portion with a byte that belongs to no character,
or with a control character, cannot be read at all. That matters only to who reads so far: what
stands before it is a text of its own.
-/

namespace InlineAudit.Yaml

open Text

/-- The characters that a text may hold. -/
def isAllowed (c : Char) : Bool :=
  let n := c.toNat
  n = 0x9 || n = 0xA || n = 0xD || (0x20 ≤ n && n ≤ 0x7E) || n = 0x85
    || (0xA0 ≤ n && n ≤ 0xD7FF) || (0xE000 ≤ n && n ≤ 0xFFFD) || 0x10000 ≤ n

/-- How many bytes a character takes by its first byte; zero for a byte that starts none. -/
def leadWidth (b : UInt8) : Nat :=
  if b < 0x80 then 1
  else if b < 0xC0 then 0
  else if b < 0xE0 then 2
  else if b < 0xF0 then 3
  else if b < 0xF8 then 4
  else 0

/-- An encoding, by what it makes of a byte and those that follow: the number of bytes that go
together, and the character they are, if they are one. -/
abbrev Encoding := UInt8 → Bytes → Nat × Option Char

def utf8 : Encoding := fun a follow =>
  (max 1 (leadWidth a), (character? a follow).map (·.1))

/-- The number that two bytes make, with the low half first or last. -/
def unit (lowFirst : Bool) (a b : UInt8) : Nat :=
  if lowFirst then a.toNat + 256 * b.toNat else 256 * a.toNat + b.toNat

/-- Units of 16 bits; two of them make a character beyond the range of one. -/
def utf16 (lowFirst : Bool) : Encoding := fun a follow =>
  match follow with
  | [] => (2, none)
  | b :: rest =>
    let u := unit lowFirst a b
    if 0xDC00 ≤ u && u < 0xE000 then (2, none)
    else if 0xD800 ≤ u && u < 0xDC00 then
      match rest with
      | c :: d :: _ =>
        let v := unit lowFirst c d
        if 0xDC00 ≤ v && v < 0xE000 then
          (4, some (Char.ofNat (0x10000 + (u - 0xD800) * 0x400 + (v - 0xDC00))))
        else (4, none)
      | _ => (4, none)
    else (2, some (Char.ofNat u))

/-- The encoding of a text, and the length of the mark that tells it. -/
def encodingOf (bytes : Bytes) : Encoding × Nat :=
  match bytes with
  | 0xEF :: 0xBB :: 0xBF :: _ => (utf8, 3)
  | 0xFF :: 0xFE :: _ => (utf16 true, 2)
  | 0xFE :: 0xFF :: _ => (utf16 false, 2)
  | _ => (utf8, 0)

/-- The characters of a text as far as they can be read. -/
structure Input where
  chars : List Char
  /-- Set when there is more, which cannot be read. -/
  broken : Bool
  /-- The number of characters behind the first portion. -/
  later : Nat := 0
  deriving DecidableEq, Repr, Inhabited

/-- The number of bytes in a portion. -/
def portion : Nat := 512

/-- Reads portions of bytes. The arguments are the bytes that are left of the portion, those to be
left out because they belong to the character before, and the characters of the portions before
and of this one, both in reverse. A character that does not fit into a portion is left to the next
one. -/
def readPortions (encoding : Encoding) :
    (room skip : Nat) → (done chars : List Char) → Bytes → Input
  | _, _, done, chars, [] => { chars := (chars ++ done).reverse, broken := false }
  | room, skip + 1, done, chars, _ :: rest => readPortions encoding room skip done chars rest
  | room, 0, done, chars, a :: rest =>
    let (width, c?) := encoding a rest
    let full := room < width
    let done := if full then chars ++ done else done
    let chars := if full then [] else chars
    let room := if full then portion else room
    if ((a :: rest).drop (width - 1)).isEmpty then
      { chars := (chars ++ done).reverse, broken := true }
    else match c?.filter isAllowed with
      | none => { chars := done.reverse, broken := true }
      | some c => readPortions encoding (room - width) (width - 1) done (c :: chars) rest

/-- A line feed for each carriage return, with the line feed behind it if there is one. -/
def normaliseBreaks : List Char → List Char
  | [] => []
  | '\r' :: '\n' :: rest => '\n' :: normaliseBreaks rest
  | c :: rest => (if c = '\r' then '\n' else c) :: normaliseBreaks rest

/-- Reads some of the bytes of a text, where `mark` is the length of the mark in front. -/
def readFrom (encoding : Encoding) (mark : Nat) (bytes : Bytes) : Input :=
  let input := readPortions encoding (portion - mark) 0 [] [] (bytes.drop mark)
  { input with chars := normaliseBreaks input.chars }

def readInput (bytes : Bytes) : Input :=
  let (encoding, mark) := encodingOf bytes
  let input := readFrom encoding mark bytes
  let first := readFrom encoding mark (bytes.take portion)
  { input with later := input.chars.length - first.chars.length }

end InlineAudit.Yaml
