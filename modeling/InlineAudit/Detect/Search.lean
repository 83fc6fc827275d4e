import InlineAudit.Text.Lines
import InlineAudit.Text.Lower

/-!
Searching a text from left to right. A recogniser looks at the text from one position on, and at
the character before it, and says what it sees there and how many characters that takes. The
search takes the leftmost sight first and goes on where that one ends.
-/

namespace InlineAudit.Detect

open Text

abbrev Recogniser (α : Type) := (before : Option Char) → (text : List Char) → Option (α × Nat)

/-- The sights of a recogniser with their offsets, in what follows the first `skip` characters. -/
def sightsFrom {α : Type} (see : Recogniser α) :
    (skip offset : Nat) → (before : Option Char) → List Char → List (Nat × α)
  | _, _, _, [] => []
  | skip + 1, offset, _, c :: rest => sightsFrom see skip (offset + 1) (some c) rest
  | 0, offset, before, c :: rest =>
    match see before (c :: rest) with
    | some (seen, size) => (offset, seen) :: sightsFrom see (size - 1) (offset + 1) (some c) rest
    | none => sightsFrom see 0 (offset + 1) (some c) rest

def sights {α : Type} (see : Recogniser α) (text : List Char) : List (Nat × α) :=
  sightsFrom see 0 0 none text

/-- Whether a recogniser sees anything in what follows the character `before`. -/
def seenFrom {α : Type} (see : Recogniser α) : (before : Option Char) → List Char → Bool
  | _, [] => false
  | before, c :: rest => (see before (c :: rest)).isSome || seenFrom see (some c) rest

def seen {α : Type} (see : Recogniser α) (text : List Char) : Bool := seenFrom see none text

/-- What follows a lower-case word at the head of a text, whatever the case of the text. -/
def afterAnyCase? : (word text : List Char) → Option (List Char)
  | [], text => some text
  | _ :: _, [] => none
  | w :: word, c :: text => if lower c = w then afterAnyCase? word text else none

end InlineAudit.Detect
