/-!
Sets of code points as ascending bounds. A list `[a, b, c, d]` stands for the code points from
`a` up to but not including `b`, and from `c` up to but not including `d`.
-/

namespace InlineAudit.Text

/-- Whether a code point lies in one of the runs of an ascending list of bounds. -/
def inRuns (n : Nat) : List Nat → Bool
  | [] => false
  | [lo] => lo ≤ n
  | lo :: hi :: rest => if n < lo then false else n < hi || inRuns n rest

end InlineAudit.Text
