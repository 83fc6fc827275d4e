import InlineAudit.Detect.Directive
import InlineAudit.Detect.Marker

/-!
All findings of a content. The marker pass goes through its lines, then each family through its
text; all passes share one ledger, so a line keeps the finding of the first pass that claims it.
-/

namespace InlineAudit

open Detect Text

/-- The lines of a content, as bytes. -/
def byteLines (content : Bytes) : List Bytes := splitAt 0x0A content

/-- The suppression directives of a content, at most one for each line. -/
def findingsOfBytes (content : Bytes) : List Finding :=
  let lines := byteLines content
  let marked := enterMarkers lines.length 1 lines {}
  (families.foldl (fun ledger family => family.enterAll (decode content) ledger) marked).findings

end InlineAudit
