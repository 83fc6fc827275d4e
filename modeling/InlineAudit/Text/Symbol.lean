/-!
Bytes read as text. Every sequence of bytes reads as a list of symbols: characters where the
bytes are well-formed UTF-8, and stray bytes everywhere else, one symbol for each. Reading loses
nothing, since a symbol knows the bytes it came from. Where text is compared or searched, a
stray byte counts as U+FFFD.
-/

namespace InlineAudit.Text

abbrev Bytes := List UInt8

inductive Symbol where
  | char (c : Char)
  | stray (b : UInt8)
  deriving DecidableEq, Repr, Inhabited

/-- The character that stands for a stray byte. -/
def replacement : Char := '\uFFFD'

def Symbol.toChar : Symbol → Char
  | .char c => c
  | .stray _ => replacement

def Symbol.toBytes : Symbol → Bytes
  | .char c => String.utf8EncodeChar c
  | .stray b => [b]

def Symbol.isStray : Symbol → Bool
  | .char _ => false
  | .stray _ => true

/-- Whether a byte lies between two others, the bounds included. -/
def within (lo hi b : UInt8) : Bool := lo ≤ b && b ≤ hi

/-- The low six bits of a continuation byte. -/
def tailBits (b : UInt8) : Nat := b.toNat - 0x80

/-- The character whose well-formed encoding starts with byte `a` and goes on in the bytes that
follow, with the number of bytes it takes from them. -/
def character? (a : UInt8) (follow : Bytes) : Option (Char × Nat) :=
  if a < 0x80 then
    some (Char.ofNat a.toNat, 0)
  else if within 0xC2 0xDF a then
    match follow with
    | b :: _ =>
      if within 0x80 0xBF b then
        some (Char.ofNat ((a.toNat - 0xC0) * 0x40 + tailBits b), 1)
      else none
    | [] => none
  else if within 0xE0 0xEF a then
    match follow with
    | b :: c :: _ =>
      if within (if a = 0xE0 then 0xA0 else 0x80) (if a = 0xED then 0x9F else 0xBF) b
          && within 0x80 0xBF c then
        some (Char.ofNat ((a.toNat - 0xE0) * 0x1000 + tailBits b * 0x40 + tailBits c), 2)
      else none
    | _ => none
  else if within 0xF0 0xF4 a then
    match follow with
    | b :: c :: d :: _ =>
      if within (if a = 0xF0 then 0x90 else 0x80) (if a = 0xF4 then 0x8F else 0xBF) b
          && within 0x80 0xBF c && within 0x80 0xBF d then
        some (Char.ofNat ((a.toNat - 0xF0) * 0x40000 + tailBits b * 0x1000
          + tailBits c * 0x40 + tailBits d), 3)
      else none
    | _ => none
  else none

/-- Reads symbols after leaving out the first `skip` bytes. -/
def symbolsFrom : Nat → Bytes → List Symbol
  | _, [] => []
  | skip + 1, _ :: rest => symbolsFrom skip rest
  | 0, a :: rest =>
    match character? a rest with
    | some (c, tail) => .char c :: symbolsFrom tail rest
    | none => .stray a :: symbolsFrom 0 rest

def symbols (bytes : Bytes) : List Symbol := symbolsFrom 0 bytes

/-- The bytes that a list of symbols came from. -/
def unread (text : List Symbol) : Bytes := text.flatMap Symbol.toBytes

/-- The characters of a byte sequence, each stray byte read as U+FFFD. -/
def decode (bytes : Bytes) : List Char := (symbols bytes).map Symbol.toChar

def encode (text : List Char) : Bytes := text.flatMap String.utf8EncodeChar

/-- The bytes as a string, each stray byte read as U+FFFD. -/
def decodeString (bytes : Bytes) : String := String.ofList (decode bytes)

def encodeString (text : String) : Bytes := encode text.toList

/-- Whether the bytes are well-formed UTF-8. -/
def wellFormed (bytes : Bytes) : Bool := (symbols bytes).all (fun s => !s.isStray)

end InlineAudit.Text
