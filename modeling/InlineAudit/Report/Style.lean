import InlineAudit.Text.Cells

/-!
Styled text. A style is shown line by line, and the lines of one text are made equally wide. How
much of that an output shows is its finish: bare text, text in shape without colours, or all.
-/

namespace InlineAudit

open Text

/-- The attributes of a piece of text; colours are numbered from 0 to 15. -/
structure Style where
  bold : Bool := false
  faint : Bool := false
  colour : Option Nat := none
  deriving DecidableEq, Repr, Inhabited

/-- What an output shows of a style. -/
inductive Finish where
  /-- Only the text; tabs become spaces. -/
  | bare
  /-- Lines of equal width without colours. -/
  | shaped
  /-- Lines of equal width with the codes of the attributes. -/
  | coloured
  deriving DecidableEq, Repr, Inhabited

namespace Style

/-- The terminal code of a foreground colour. -/
def colourCode (n : Nat) : Nat := if n < 8 then 30 + n else 82 + n

/-- The terminal codes of a style. -/
def codes (style : Style) : List Nat :=
  (if style.bold then [1] else []) ++ (if style.faint then [2] else [])
    ++ (style.colour.map colourCode).toList

/-- One line between the codes that switch a style on and off. -/
def paintLine (style : Style) (line : List Char) : List Char :=
  if style.codes.isEmpty then line
  else ("\x1b[" ++ join ";" (style.codes.map toString) ++ "m").toList ++ line ++ "\x1b[0m".toList

/-- Four spaces in place of each tab. -/
def expandTabs (text : List Char) : List Char := replaceAll ['\t'] [' ', ' ', ' ', ' '] text

/-- Fills lines up with spaces to the width of the widest. -/
def level (pieces : List (List Char)) : List (List Char) :=
  let width := (pieces.map lineCells).foldl max 0
  pieces.map fun line => line ++ List.replicate (width - lineCells line) ' '

def joinLines (pieces : List (List Char)) : List Char := (pieces.intersperse ['\n']).flatten

/-- A text in a style on an output. -/
def render (finish : Finish) (style : Style) (text : String) : String :=
  let text := expandTabs text.toList
  match finish with
  | .bare => String.ofList text
  | .shaped => String.ofList (joinLines (level (lines (replaceAll ['\r', '\n'] ['\n'] text))))
  | .coloured =>
    String.ofList (joinLines (level ((lines (replaceAll ['\r', '\n'] ['\n'] text)).map
      style.paintLine)))

end Style

end InlineAudit
