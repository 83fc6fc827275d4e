import InlineAudit.Text.Ranges

/-!
White space and the two ways a text is cut at it: trimming both ends, and splitting into fields.
-/

namespace InlineAudit.Text

/-- Unicode white space. -/
def isBlank (c : Char) : Bool :=
  inRuns c.toNat [0x9, 0xE, 0x20, 0x21, 0x85, 0x86, 0xA0, 0xA1, 0x1680, 0x1681, 0x2000, 0x200B,
    0x2028, 0x202A, 0x202F, 0x2030, 0x205F, 0x2060, 0x3000, 0x3001]

def skipBlanks (text : List Char) : List Char := text.dropWhile isBlank

/-- Drops the elements that satisfy `p` from both ends. -/
def trimBy {α : Type} (p : α → Bool) (text : List α) : List α :=
  ((text.dropWhile p).reverse.dropWhile p).reverse

def trim (text : List Char) : List Char := trimBy isBlank text

def trimString (text : String) : String := String.ofList (trim text.toList)

/-- The maximal non-empty runs of elements that do not satisfy `p`. The argument `run` holds the
run being read, in reverse. -/
def fieldsFrom {α : Type} (p : α → Bool) (run : List α) : List α → List (List α)
  | [] => if run.isEmpty then [] else [run.reverse]
  | a :: rest =>
    if p a then
      if run.isEmpty then fieldsFrom p [] rest else run.reverse :: fieldsFrom p [] rest
    else fieldsFrom p (a :: run) rest

def fieldsBy {α : Type} (p : α → Bool) (text : List α) : List (List α) := fieldsFrom p [] text

end InlineAudit.Text
