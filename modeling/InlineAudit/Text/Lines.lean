/-!
Lines. A text is cut at every separator, so there is always one more piece than there are
separators, and the line of a position is one more than the number of line feeds before it.
-/

namespace InlineAudit.Text

/-- The pieces of a list between the elements equal to `sep`. -/
def splitAt {α : Type} [DecidableEq α] (sep : α) : List α → List (List α)
  | [] => [[]]
  | a :: rest =>
    if a = sep then [] :: splitAt sep rest
    else match splitAt sep rest with
      | piece :: more => (a :: piece) :: more
      | [] => [[a]]

def lines (text : List Char) : List (List Char) := splitAt '\n' text

/-- The line, counted from one, that holds the character at an offset. -/
def lineAt (text : List Char) (offset : Nat) : Nat := 1 + (text.take offset).count '\n'

/-- The same for any integer: offsets outside the text are clamped to it. -/
def lineAtInt (text : List Char) (offset : Int) : Nat := lineAt text offset.toNat

/-- Joins pieces with a separator between neighbours. -/
def join (sep : String) (pieces : List String) : String := String.intercalate sep pieces

/-- Splits a string at a character. -/
def splitString (sep : Char) (text : String) : List String :=
  (splitAt sep text.toList).map String.ofList

/-- Cuts a text after the first element that equals `sep`, which is dropped. -/
def cutAt? {α : Type} [DecidableEq α] (sep : α) : List α → Option (List α × List α)
  | [] => none
  | a :: rest =>
    if a = sep then some ([], rest)
    else (cutAt? sep rest).map (fun (left, right) => (a :: left, right))

/-- What follows `start` at the head of a text. -/
def after? {α : Type} [DecidableEq α] : (start text : List α) → Option (List α)
  | [], text => some text
  | _ :: _, [] => none
  | a :: start, b :: text => if a = b then after? start text else none

/-- Replaces every non-overlapping occurrence of `old`, from the left, in what follows the first
`skip` characters. -/
def replaceFrom (old new : List Char) : Nat → List Char → List Char
  | _, [] => []
  | skip + 1, _ :: rest => replaceFrom old new skip rest
  | 0, c :: rest =>
    match after? old (c :: rest) with
    | some _ => new ++ replaceFrom old new (old.length - 1) rest
    | none => c :: replaceFrom old new 0 rest

def replaceAll (old new text : List Char) : List Char := replaceFrom old new 0 text

end InlineAudit.Text
