import InlineAudit.Text.WordTable

/-!
Word characters and word boundaries. A boundary lies between two neighbours of which exactly one
is a word character; the ends of the text count as no character.
-/

namespace InlineAudit.Text

def isWord (c : Char) : Bool := inRuns c.toNat wordBounds

/-- Whether the neighbour on one side of a position is a word character. -/
def neighbourIsWord : Option Char → Bool
  | some c => isWord c
  | none => false

end InlineAudit.Text
