import InlineAudit.Text.Quoted

/-!
Texts that need not be well-formed. Settings may hold bytes that are no UTF-8, and an error about
them has to name these bytes.
-/

namespace InlineAudit.Text

structure Raw where
  symbols : List Symbol
  deriving DecidableEq, Repr, Inhabited

namespace Raw

def ofString (text : String) : Raw := ⟨text.toList.map .char⟩

def ofBytes (bytes : Bytes) : Raw := ⟨Text.symbols bytes⟩

instance : Coe String Raw := ⟨ofString⟩

/-- The text with U+FFFD for each stray byte. -/
def shown (text : Raw) : String := String.ofList (text.symbols.map Symbol.toChar)

/-- The text between quotes, where stray bytes are escaped. -/
def quoted (text : Raw) : String := quoteSymbols text.symbols

/-- The characters of the text, if it has no stray bytes. -/
def chars? (text : Raw) : Option (List Char) :=
  if text.symbols.any Symbol.isStray then none else some (text.symbols.map Symbol.toChar)

end Raw

end InlineAudit.Text
