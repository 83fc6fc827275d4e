/-!
Letters that have a form of the other case, as runs at a fixed distance from it.
-/

namespace InlineAudit.Text

/-- Every `step`-th code point from `first` to `last` has its other form `shift` further on. -/
structure CaseRun where
  first : Nat
  last : Nat
  step : Nat
  shift : Int
  deriving Repr

def CaseRun.has (run : CaseRun) (n : Nat) : Bool :=
  run.first ≤ n && n ≤ run.last && (n - run.first) % run.step == 0

/-- The shift of the run that holds a code point; runs are ascending, so the search stops early. -/
def caseShift (n : Nat) : List CaseRun → Int
  | [] => 0
  | run :: rest =>
    if n < run.first then 0
    else if run.has n then run.shift
    else caseShift n rest

end InlineAudit.Text
