import InlineAudit.Text.Blank
import InlineAudit.Text.Lines
import InlineAudit.Text.Number
import InlineAudit.Text.Symbol

/-!
Lines that count the changes of one file: lines added, lines removed and a path, separated by
white space. Binary files have a dash for each count.
-/

namespace InlineAudit.Git

open Text

/-- How many lines a file gained and lost. -/
structure ChangeCount where
  added : Int := 0
  removed : Int := 0
  deriving DecidableEq, Repr, Inhabited

/-- The number at the head of a field: a sign or none and as many decimal digits as there are.
Without digits, or outside 64 bits, it reads as zero. -/
def leadingCount (field : List Char) : Int :=
  let (negative, rest) := splitSign field
  let digits := rest.takeWhile Char.isDigit
  let value : Int := if negative then -(digitsValue digits) else digitsValue digits
  if digits.isEmpty || value < int64Min || int64Max < value then 0 else value

def isBlankSymbol (s : Symbol) : Bool := isBlank s.toChar

/-- One counting line: the path and its counts. Of the white space inside a path each run is read
as a single space. A line of fewer than three fields counts nothing. -/
def numstat? (line : List Symbol) : Option (List Symbol × ChangeCount) :=
  match fieldsBy isBlankSymbol line with
  | added :: removed :: first :: more =>
    let path := more.foldl (fun path field => path ++ .char ' ' :: field) first
    some (path, ⟨leadingCount (added.map Symbol.toChar), leadingCount (removed.map Symbol.toChar)⟩)
  | _ => none

end InlineAudit.Git
