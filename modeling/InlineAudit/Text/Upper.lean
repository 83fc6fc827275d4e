import InlineAudit.Text.UpperTable

/-!
Upper case, character by character. A character without an upper-case form of one code point stays
as it is, so a text keeps its length.
-/

namespace InlineAudit.Text

def upper (c : Char) : Char :=
  if c.toNat < 0x80 then c.toUpper
  else Char.ofNat (c.toNat + caseShift c.toNat upperRuns).toNat

def upperString (text : String) : String := String.ofList (text.toList.map upper)

end InlineAudit.Text
