import InlineAudit.Text.CellTable
import InlineAudit.Text.Lines

/-!
How many cells of a terminal a text takes. Characters join into clusters, and a cluster takes the
room of its parts, except that flags, pictographs and Hangul syllables take the room of their
first character. Escape sequences take no room.
-/

namespace InlineAudit.Text

/-- How a character joins its neighbours. -/
inductive Joining where
  | control
  | extend
  | joiner
  | spacing
  | prepend
  | regional
  | pictograph
  | leading
  | vowel
  | trailing
  | openSyllable
  | closedSyllable
  | other
  deriving DecidableEq, Repr, Inhabited

/-- The joining of Hangul letters and syllables. -/
def hangulJoining? (n : Nat) : Option Joining :=
  if 0x1100 ≤ n && n < 0x1160 || 0xA960 ≤ n && n < 0xA97D then some .leading
  else if 0x1160 ≤ n && n < 0x11A8 || 0xD7B0 ≤ n && n < 0xD7C7 then some .vowel
  else if 0x11A8 ≤ n && n < 0x1200 || 0xD7CB ≤ n && n < 0xD7FC then some .trailing
  else if 0xAC00 ≤ n && n < 0xD7A4 then
    some (if (n - 0xAC00) % 28 = 0 then .openSyllable else .closedSyllable)
  else none

def joining (c : Char) : Joining :=
  let n := c.toNat
  if 0x20 ≤ n && n < 0x7F then .other
  else if n = 0x200D then .joiner
  else if n = 0x0A || n = 0x0D || inRuns n controlBounds then .control
  else if inRuns n extendBounds then .extend
  else if inRuns n spacingMarkBounds then .spacing
  else if inRuns n prependBounds then .prepend
  else if 0x1F1E6 ≤ n && n < 0x1F200 then .regional
  else if inRuns n pictographBounds then .pictograph
  else (hangulJoining? n).getD .other

/-- The cells of a character that stands alone. -/
def charCells (c : Char) : Joining → Nat
  | .control | .extend | .joiner => 0
  | .regional => 2
  | .pictograph => if inRuns c.toNat emojiBounds then 2 else 1
  | _ =>
    if c.toNat = 0x2E3A then 3
    else if c.toNat = 0x2E3B then 4
    else if inRuns c.toNat wideBounds then 2
    else 1

/-- A cluster that may still grow. -/
structure Cluster where
  cells : Nat
  first : Joining
  last : Joining
  /-- Set while the cluster is a pictograph with marks behind it. -/
  pictured : Bool
  /-- Set when a joiner came right behind such a beginning. -/
  linked : Bool
  /-- Set when the last character is half of a flag. -/
  halfFlag : Bool
  deriving Repr, Inhabited

/-- Whether a character of a kind goes on with a cluster. -/
def Cluster.takes (cluster : Cluster) (kind : Joining) : Bool :=
  match cluster.last, kind with
  | .control, _ => false
  | _, .control => false
  | _, .extend => true
  | _, .joiner => true
  | _, .spacing => true
  | .prepend, _ => true
  | .leading, .leading => true
  | .leading, .vowel => true
  | .leading, .openSyllable => true
  | .leading, .closedSyllable => true
  | .openSyllable, .vowel => true
  | .openSyllable, .trailing => true
  | .vowel, .vowel => true
  | .vowel, .trailing => true
  | .closedSyllable, .trailing => true
  | .trailing, .trailing => true
  | _, .pictograph => cluster.linked
  | _, .regional => cluster.halfFlag
  | _, _ => false

def Cluster.start (c : Char) (kind : Joining) : Cluster :=
  { cells := charCells c kind, first := kind, last := kind, pictured := kind = .pictograph
    linked := false, halfFlag := kind = .regional }

/-- The cells of a cluster after one more character. -/
def Cluster.cellsWith (cluster : Cluster) (c : Char) (kind : Joining) : Nat :=
  match cluster.first with
  | .pictograph =>
    if c.toNat = 0xFE0E then 1 else if c.toNat = 0xFE0F then 2 else cluster.cells
  | .regional | .leading => cluster.cells
  | _ => cluster.cells + charCells c kind

def Cluster.push (cluster : Cluster) (c : Char) (kind : Joining) : Cluster :=
  { cells := cluster.cellsWith c kind
    first := cluster.first
    last := kind
    pictured := kind = .pictograph || cluster.pictured && kind = .extend
    linked := cluster.pictured && kind = .joiner
    halfFlag := kind = .regional && !cluster.halfFlag }

/-- The cells of a text behind an unfinished cluster. -/
def cellsAfter (cluster : Cluster) : List Char → Nat
  | [] => cluster.cells
  | c :: rest =>
    let kind := joining c
    if cluster.takes kind then cellsAfter (cluster.push c kind) rest
    else cluster.cells + cellsAfter (Cluster.start c kind) rest

/-- What an unfinished escape sequence waits for. -/
inductive Pending where
  | none
  /-- The character behind the escape. -/
  | opening
  /-- The letter that ends a control sequence. -/
  | letter
  /-- The end of a command string, which a bell ends too if the flag is set. -/
  | stringEnd (bell : Bool)
  deriving DecidableEq, Repr, Inhabited

/-- What a sequence waits for after one more character; a character that belongs to no sequence
is kept. -/
def Pending.step (pending : Pending) (c : Char) : Pending × Bool :=
  let n := c.toNat
  if n = 0x1B then (.opening, false)
  else match pending with
    | .none => (.none, true)
    | .opening =>
      if n ≥ 0x80 then (.none, true)
      else if c = '[' then (.letter, false)
      else if c = ']' then (.stringEnd true, false)
      else if c = 'P' || c = 'X' || c = '^' || c = '_' then (.stringEnd false, false)
      else if n < 0x30 || n = 0x7F then (.opening, false)
      else (.none, false)
    | .letter =>
      if n ≥ 0x80 then (.none, true)
      else if 0x40 ≤ n && n < 0x7F then (.none, false)
      else (.letter, false)
    | .stringEnd bell => if bell && n = 0x07 then (.none, false) else (.stringEnd bell, false)

/-- A text without its escape sequences. -/
def withoutEscapes (pending : Pending) : List Char → List Char
  | [] => []
  | c :: rest =>
    let (next, keep) := pending.step c
    if keep then c :: withoutEscapes next rest else withoutEscapes next rest

/-- The cells of a single line. -/
def lineCells (line : List Char) : Nat :=
  match withoutEscapes .none line with
  | [] => 0
  | c :: rest => cellsAfter (Cluster.start c (joining c)) rest

/-- The cells of the widest line of a text. -/
def cells (text : List Char) : Nat := ((lines text).map lineCells).foldl max 0

end InlineAudit.Text
