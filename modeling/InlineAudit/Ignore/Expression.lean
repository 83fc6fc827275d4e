/-!
Expressions over paths, and whether one is found in a path. The search asks only for yes or no,
so an expression is given by the set of positions where a match that starts at a position may
end. The set is computed by recursion on the expression; repetition without an upper bound stops
after as many rounds as the text has positions.
-/

namespace InlineAudit.Ignore

/-- Part of a character class: a range of code points, or all outside some ranges. -/
inductive ClassItem where
  | range (first last : Nat)
  | outside (ranges : List (Nat × Nat))
  deriving DecidableEq, Repr

def inRange (n : Nat) (range : Nat × Nat) : Bool := range.1 ≤ n && n ≤ range.2

def ClassItem.has (n : Nat) : ClassItem → Bool
  | range first last => inRange n (first, last)
  | outside ranges => !ranges.any (inRange n)

structure CharClass where
  negated : Bool
  items : List ClassItem
  deriving DecidableEq, Repr

def CharClass.has (cls : CharClass) (c : Char) : Bool :=
  cls.items.any (·.has c.toNat) != cls.negated

inductive Expr where
  | empty
  /-- One character of a class. -/
  | one (cls : CharClass)
  /-- The start of the text. -/
  | start
  /-- The end of the text. -/
  | finish
  /-- A boundary between a word character and another, or the absence of one. -/
  | edge (present : Bool)
  | seq (first second : Expr)
  | alt (left right : Expr)
  /-- At least `least` times, and at most `most` times if that is given. -/
  | rep (least : Nat) (most : Option Nat) (inner : Expr)
  deriving DecidableEq, Repr

def isAsciiWord (c : Char) : Bool := c.isAlphanum || c == '_'

def isEdge (text : Array Char) (i : Nat) : Bool :=
  let left := if i = 0 then false else (text[i - 1]?.map isAsciiWord).getD false
  let right := (text[i]?.map isAsciiWord).getD false
  left != right

/-- Applies a function `n` times. -/
def iterate {α : Type} (f : α → α) : Nat → α → α
  | 0, a => a
  | n + 1, a => iterate f n (f a)

/-- The positions reached after up to `rounds` further steps, those of no step included. -/
def closure (step : List Nat → List Nat) (rounds : Nat) (from_ : List Nat) : List Nat :=
  iterate (fun reached => (reached ++ step reached).eraseDups) rounds from_

/-- The positions where a match that starts at a position may end. -/
def Expr.ends (text : Array Char) : Expr → Nat → List Nat
  | empty, i => [i]
  | one cls, i =>
    match text[i]? with
    | some c => if cls.has c then [i + 1] else []
    | none => []
  | start, i => if i = 0 then [i] else []
  | finish, i => if i = text.size then [i] else []
  | edge present, i => if isEdge text i == present then [i] else []
  | seq first second, i => ((first.ends text i).flatMap (second.ends text)).eraseDups
  | alt left right, i => (left.ends text i ++ right.ends text i).eraseDups
  | rep least most inner, i =>
    let step := fun reached => (reached.flatMap (inner.ends text)).eraseDups
    let rounds :=
      match most with
      | some most => most - least
      | none => text.size + 1
    closure step rounds (iterate step least [i])

/-- Whether an expression matches somewhere in a text. -/
def Expr.found (expr : Expr) (text : String) : Bool :=
  let chars := text.toList.toArray
  (List.range (chars.size + 1)).any fun i => !(expr.ends chars i).isEmpty

end InlineAudit.Ignore
