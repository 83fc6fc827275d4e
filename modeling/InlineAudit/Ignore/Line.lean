import InlineAudit.Ignore.ExpressionReader
import InlineAudit.Text.Blank
import InlineAudit.Text.Lines
import InlineAudit.Text.Raw

/-!
Ignore lines. A line is turned into the text of an expression over relative paths by a fixed
series of replacements, so the signs that mean nothing in an ignore line keep the meaning they
have in expressions. A line that starts with an exclamation mark takes back what lines before it
ignore; comments, blank lines and lines that become no expression have no effect.
-/

namespace InlineAudit.Ignore

open Text

/-- One effective line. -/
structure Pattern where
  negated : Bool
  expr : Expr
  deriving DecidableEq, Repr

/-- Whether a star and a dot follow, before any line feed. -/
def starDotAhead : List Char → Bool
  | '*' :: '.' :: _ => true
  | '\n' :: _ => false
  | _ :: rest => starDotAhead rest
  | [] => false

/-- Whether a path leads through a named directory to a star and a dot: a slash that follows
something else than a slash or a plus sign, and later a star and a dot. -/
def namesDirectory : List Char → Bool
  | a :: '/' :: rest => (a ≠ '/' && a ≠ '+' && starDotAhead rest) || namesDirectory ('/' :: rest)
  | _ :: rest => namesDirectory rest
  | [] => false

/-- Stands for a star that is a repetition sign, until the other stars are replaced. -/
def heldStar : List Char := ['#', '$', '~']

/-- The replacements of a line without its negation sign, in order. -/
def replaceSigns (line : List Char) : List Char :=
  let line := replaceAll ['.'] ['\\', '.'] line
  let line := if (after? ['/', '*', '*', '/'] line).isSome then line.tail else line
  let line := replaceAll ['/', '*', '*', '/'] "(/|/.+/)".toList line
  let line := replaceAll ['*', '*', '/'] ("(|.".toList ++ heldStar ++ "/)".toList) line
  let line := replaceAll ['/', '*', '*'] ("(|/.".toList ++ heldStar ++ ")".toList) line
  let line := replaceAll ['\\', '*'] ('\\' :: heldStar) line
  let line := replaceAll ['*'] "([^/]*)".toList line
  let line := replaceAll ['?'] ['\\', '?'] line
  replaceAll heldStar ['*'] line

/-- The text of the expression that a line without its negation sign becomes. A leading slash ties
it to the top; anything may follow below a match. -/
def expressionText (line : List Char) : List Char :=
  let line := match line with
    | '#' :: rest => rest
    | '!' :: rest => rest
    | line => line
  let line := if namesDirectory line && line.head? ≠ some '/' then '/' :: line else line
  let line := replaceSigns line
  let body := line ++ (if line.getLast? = some '/' then "(|.*)$".toList else "(|/.*)$".toList)
  match body with
  | '/' :: rest => "^(|/)".toList ++ rest
  | body => "^(|.*/)".toList ++ body

/-- The pattern of a line, if it has one. -/
def pattern? (line : List Char) : Option Pattern :=
  let line := (line.reverse.dropWhile (· = '\r')).reverse
  if line.head? = some '#' then none
  else
    match trimBy (· = ' ') line with
    | [] => none
    | '!' :: rest => (Expr.read? (expressionText rest)).map (⟨true, ·⟩)
    | line => (Expr.read? (expressionText line)).map (⟨false, ·⟩)

/-- The patterns of lines. A line with stray bytes becomes no expression. -/
def patternsOfLines (lines : List Raw) : List Pattern :=
  lines.filterMap fun line => line.chars?.bind pattern?

/-- The patterns of a file's content. -/
def patternsOfBytes (content : Bytes) : List Pattern :=
  patternsOfLines ((splitAt (.char '\n') (symbols content)).map .mk)

/-- Whether a list of patterns ignores a relative path: a matching plain line sets the answer,
a matching negated line takes it back. -/
def ignores (patterns : List Pattern) (path : String) : Bool :=
  patterns.foldl (fun ignored pattern =>
    if pattern.expr.found path then !pattern.negated else ignored) false

end InlineAudit.Ignore
