import InlineAudit.Text.CategoryTable
import InlineAudit.Text.ScriptTable

/-!
Sets of code points by name: a category of two letters, all categories with the same first letter,
a script, or all code points.
-/

namespace InlineAudit.Text

/-- The runs of ascending bounds, with the first and the last code point of each. -/
def runs : List Nat → List (Nat × Nat)
  | lo :: hi :: rest => (lo, hi - 1) :: runs rest
  | _ => []

/-- The categories whose names start with a letter. -/
def categoriesOf (letter : Char) : List (List Nat) :=
  (Category.table.filter (·.1.toList.head? = some letter)).map (·.2)

/-- The runs of the set with a name, if there is one. -/
def propertyRuns? (name : List Char) : Option (List (Nat × Nat)) :=
  match name with
  | [letter] =>
    match categoriesOf letter with
    | [] => none
    | categories => some (categories.flatMap runs)
  | name =>
    let name := String.ofList name
    if name = "Any" then some [(0, 0x10FFFF)]
    else ((Category.table.lookup name).or (Script.table.lookup name)).map runs

end InlineAudit.Text
