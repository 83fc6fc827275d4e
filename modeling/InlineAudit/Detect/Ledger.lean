import InlineAudit.Finding

/-!
The ledger of a search. Every pass enters what it finds here; a line belongs to the first finding
entered for it, and later ones on the same line are turned away.
-/

namespace InlineAudit.Detect

/-- The findings entered so far, in their order, and the lines they claim. -/
structure Ledger where
  claimed : List Int := []
  findings : List Finding := []
  deriving DecidableEq, Repr, Inhabited

/-- Enters a finding, unless its line is claimed. -/
def Ledger.enter (ledger : Ledger) (finding : Finding) : Ledger :=
  if finding.evidenceLine ∈ ledger.claimed then ledger
  else
    { claimed := finding.evidenceLine :: ledger.claimed
      findings := ledger.findings ++ [finding] }

end InlineAudit.Detect
