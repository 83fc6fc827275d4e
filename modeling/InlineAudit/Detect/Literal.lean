import InlineAudit.Text.Symbol

/-!
String literals of a line. A literal starts at a single or double quote that is closed by a quote
of the same kind; a backslash escapes the character after it, and escapes no line feed. A quote
that nothing closes starts no literal, and reading goes on right after it. Stripping blanks what
stands between the quotes and keeps the quotes and the length.
-/

namespace InlineAudit.Detect

open Text

def isQuoteMark (c : Char) : Bool := c == '"' || c == '\''

/-- How many characters stand before the quote that closes a literal opened by `mark`. -/
def closing? (mark : Char) : List Char → Option Nat
  | [] => none
  | [c] => if c = mark then some 0 else none
  | c :: d :: rest =>
    if c = mark then some 0
    else if c = '\\' then
      if d = '\n' then none else (closing? mark rest).map (· + 2)
    else (closing? mark (d :: rest)).map (· + 1)

/-- How many characters the literal at the head of a text has between its quotes. -/
def literalAt? : List Char → Option Nat
  | [] => none
  | c :: rest => if isQuoteMark c then closing? c rest else none

def hasLiteral : List Char → Bool
  | [] => false
  | c :: rest => (literalAt? (c :: rest)).isSome || hasLiteral rest

/-- Blanks the literals of a text. The first argument is zero outside literals; inside one it
counts the characters up to and including the closing quote. -/
def blankLiterals : (inside : Nat) → List Char → List Char
  | _, [] => []
  | left + 2, _ :: rest => ' ' :: blankLiterals (left + 1) rest
  | 1, c :: rest => c :: blankLiterals 0 rest
  | 0, c :: rest =>
    match literalAt? (c :: rest) with
    | some size => c :: blankLiterals (size + 1) rest
    | none => c :: blankLiterals 0 rest

/-- A text with the inside of its string literals blanked. -/
def stripLiterals (text : List Char) : List Char := blankLiterals 0 text

/-- The same for bytes. A line without literals is left as it is, down to its stray bytes; in any
other, a stray byte comes back as U+FFFD. -/
def stripLiteralBytes (line : Bytes) : Bytes :=
  if hasLiteral (decode line) then encode (stripLiterals (decode line)) else line

end InlineAudit.Detect
