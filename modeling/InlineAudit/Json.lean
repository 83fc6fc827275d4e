import InlineAudit.Text.Raw

/-!
JSON values and their two written forms: everything on one line, and one item on each line with
an indent of two spaces. Objects keep their fields in order. Writers differ in the characters
they escape beyond those that JSON itself demands, so the extra ones are an argument. A byte that
belongs to no character is written as the code point that stands for it.
-/

namespace InlineAudit.Json

open Text

inductive Value where
  | null
  | str (text : Raw)
  | int (n : Int)
  | bool (b : Bool)
  | arr (items : List Value)
  | obj (fields : List (String × Value))
  deriving Inhabited

/-- An array of strings. -/
def Value.strings (texts : List String) : Value := .arr (texts.map fun text : String => .str text)

/-- A character by its code point. -/
def codeEscape (c : Char) : List Char := ['\\', 'u'] ++ hexDigits 4 c.toNat

/-- One character inside a JSON string. -/
def escapeChar (extra : List Char) (c : Char) : List Char :=
  if c == '"' || c == '\\' then ['\\', c]
  else match c.toNat with
    | 0x08 => ['\\', 'b']
    | 0x0C => ['\\', 'f']
    | 0x0A => ['\\', 'n']
    | 0x0D => ['\\', 'r']
    | 0x09 => ['\\', 't']
    | n => if n < 0x20 || extra.contains c then codeEscape c else [c]

def escapeSymbol (extra : List Char) : Symbol → List Char
  | .char c => escapeChar extra c
  | .stray _ => codeEscape replacement

def stringChars (extra : List Char) (text : Raw) : List Char :=
  '"' :: text.symbols.flatMap (escapeSymbol extra) ++ ['"']

def intChars (n : Int) : List Char := (toString n).toList

def nullChars : List Char := ['n', 'u', 'l', 'l']

def boolChars (b : Bool) : List Char := (if b then "true" else "false").toList

mutual

/-- A value on one line, without spaces. -/
def compact (extra : List Char) : Value → List Char
  | .null => nullChars
  | .str text => stringChars extra text
  | .int n => intChars n
  | .bool b => boolChars b
  | .arr [] => ['[', ']']
  | .arr (item :: rest) => '[' :: compact extra item ++ compactItems extra rest ++ [']']
  | .obj [] => ['\x7b', '\x7d']
  | .obj ((key, value) :: rest) =>
    '\x7b' :: stringChars extra key ++ ':' :: compact extra value
      ++ compactFields extra rest ++ ['\x7d']

/-- The items after the first. -/
def compactItems (extra : List Char) : List Value → List Char
  | [] => []
  | item :: rest => ',' :: compact extra item ++ compactItems extra rest

/-- The fields after the first. -/
def compactFields (extra : List Char) : List (String × Value) → List Char
  | [] => []
  | (key, value) :: rest =>
    ',' :: stringChars extra key ++ ':' :: compact extra value ++ compactFields extra rest

end

/-- A line break and the indent of a nesting depth. -/
def newLine (depth : Nat) : List Char := '\n' :: List.replicate (2 * depth) ' '

mutual

/-- A value with one item on each line, at a nesting depth. -/
def indented (extra : List Char) (depth : Nat) : Value → List Char
  | .null => nullChars
  | .str text => stringChars extra text
  | .int n => intChars n
  | .bool b => boolChars b
  | .arr [] => ['[', ']']
  | .arr (item :: rest) =>
    '[' :: newLine (depth + 1) ++ indented extra (depth + 1) item
      ++ indentedItems extra (depth + 1) rest ++ newLine depth ++ [']']
  | .obj [] => ['\x7b', '\x7d']
  | .obj ((key, value) :: rest) =>
    '\x7b' :: newLine (depth + 1) ++ stringChars extra key ++ [':', ' ']
      ++ indented extra (depth + 1) value ++ indentedFields extra (depth + 1) rest
      ++ newLine depth ++ ['\x7d']

/-- The items after the first. -/
def indentedItems (extra : List Char) (depth : Nat) : List Value → List Char
  | [] => []
  | item :: rest =>
    ',' :: newLine depth ++ indented extra depth item ++ indentedItems extra depth rest

/-- The fields after the first. -/
def indentedFields (extra : List Char) (depth : Nat) : List (String × Value) → List Char
  | [] => []
  | (key, value) :: rest =>
    ',' :: newLine depth ++ stringChars extra key ++ [':', ' '] ++ indented extra depth value
      ++ indentedFields extra depth rest

end

/-- What documents escape so that they can stand inside HTML and scripts. -/
def documentEscapes : List Char := ['<', '>', '&', '\u2028', '\u2029']

/-- A value as a document of its own, without a final line break. -/
def document (value : Value) : String := String.ofList (indented documentEscapes 0 value)

end InlineAudit.Json
