import InlineAudit.Text.LowerTable

/-!
Lower case, character by character. Each character is mapped on its own, so a text keeps its
length.
-/

namespace InlineAudit.Text

def lower (c : Char) : Char :=
  if c.toNat < 0x80 then c.toLower
  else Char.ofNat (c.toNat + caseShift c.toNat lowerRuns).toNat

def lowerString (text : String) : String := String.ofList (text.toList.map lower)

end InlineAudit.Text
