import InlineAudit.Text.GraphicTable
import InlineAudit.Text.Symbol

/-!
Text between double quotes, as error messages and log fields show it: quotes and backslashes are
escaped, and so is every character without a visible form, the plain space apart.
-/

namespace InlineAudit.Text

/-- Whether a character is shown as it is. -/
def isShown (c : Char) : Bool := c == ' ' || inRuns c.toNat graphicBounds

/-- The last `width` hexadecimal digits of a number, in lower case. -/
def hexDigits : Nat → Nat → List Char
  | 0, _ => []
  | width + 1, n => hexDigits width (n / 16) ++ [Nat.digitChar (n % 16)]

/-- One character inside quotes of the kind `mark`. -/
def quotedChar (mark c : Char) : List Char :=
  if c == mark || c == '\\' then ['\\', c]
  else if isShown c then [c]
  else match c.toNat with
    | 0x07 => ['\\', 'a']
    | 0x08 => ['\\', 'b']
    | 0x0C => ['\\', 'f']
    | 0x0A => ['\\', 'n']
    | 0x0D => ['\\', 'r']
    | 0x09 => ['\\', 't']
    | 0x0B => ['\\', 'v']
    | n =>
      if n < 0x20 || n == 0x7F then ['\\', 'x'] ++ hexDigits 2 n
      else if n < 0x10000 then ['\\', 'u'] ++ hexDigits 4 n
      else ['\\', 'U'] ++ hexDigits 8 n

def quotedSymbol : Symbol → List Char
  | .char c => quotedChar '"' c
  | .stray b => ['\\', 'x'] ++ hexDigits 2 b.toNat

def quoteSymbols (text : List Symbol) : String :=
  String.ofList ('"' :: text.flatMap quotedSymbol ++ ['"'])

def quote (text : String) : String :=
  String.ofList ('"' :: text.toList.flatMap (quotedChar '"') ++ ['"'])

/-- A single character between apostrophes. -/
def quoteChar (c : Char) : String := String.ofList ('\'' :: quotedChar '\'' c ++ ['\''])

end InlineAudit.Text
