import InlineAudit.Detect.Ledger
import InlineAudit.Detect.Literal
import InlineAudit.Detect.Search
import InlineAudit.Text.Quoted
import InlineAudit.Text.Word

/-!
The comment marker. A line is a marker line if the marker stands on it as a word of its own, in
any case, outside the line's string literals.
-/

namespace InlineAudit.Detect

open Text

def marker : String := "NOSONAR"

/-- The marker as a word of its own. -/
def markerWord : Recogniser Unit := fun before text =>
  if neighbourIsWord before then none
  else match afterAnyCase? ['n', 'o', 's', 'o', 'n', 'a', 'r'] text with
    | some rest => if neighbourIsWord rest.head? then none else some ((), 7)
    | none => none

def isMarkerLine (line : Bytes) : Bool := seen markerWord (decode (stripLiteralBytes line))

/-- The line a marker is reported on: the one before it, for the first line the one after it, and
its own line only if there is no other. -/
def markerReportLine (line total : Nat) : Nat :=
  if line > 1 then line - 1 else if total > 1 then line + 1 else line

def markerMessage (line : Nat) : String :=
  "Remove this use of " ++ quote marker ++ " (line " ++ toString line ++ "). "
    ++ "Suppressing SonarQube issues inline is not permitted."

def markerFinding (total line : Nat) : Finding :=
  { reportLine := markerReportLine line total
    evidenceLine := line
    category := .bareMarker
    message := markerMessage line }

/-- Enters the marker lines among lines of which the first has the number `line`. -/
def enterMarkers (total : Nat) : (line : Nat) → List Bytes → Ledger → Ledger
  | _, [], ledger => ledger
  | line, text :: rest, ledger =>
    if isMarkerLine text then
      enterMarkers total (line + 1) rest (ledger.enter (markerFinding total line))
    else enterMarkers total (line + 1) rest ledger

end InlineAudit.Detect
