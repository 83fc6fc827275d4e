import InlineAudit.Proofs.Detect.MarkerLine

/-!
Stray bytes. Bytes reach the passes on three ways: the whole content as text, each line as text,
and lines that are written anew because a literal was blanked. All three see the decoded
characters and nothing else, and a stray byte decodes as U+FFFD wherever it stands. So contents
that decode alike have the same findings, and so has a content whose stray bytes are replaced.
-/

namespace InlineAudit

open Detect Text

namespace Detect

/-- Whether a line is a marker line is told by its characters. -/
theorem isMarkerLine_eq (line : Bytes) :
    isMarkerLine line = seen markerWord (stripLiterals (decode line)) := by
  rw [isMarkerLine, decode_stripLiteralBytes]

/-- Lines matter to the marker pass only for which of them are marker lines. -/
theorem markersFrom_congr {lines lines' : List Bytes}
    (h : lines.map isMarkerLine = lines'.map isMarkerLine) (total first : Nat) :
    markersFrom total first lines = markersFrom total first lines' := by
  induction lines generalizing lines' first with
  | nil =>
      obtain rfl := List.map_eq_nil_iff.mp h.symm
      rfl
  | cons line lines ih =>
      obtain ⟨line', rest, rfl, hline, hrest⟩ := List.map_eq_cons_iff.mp h.symm
      rw [markersFrom_cons, markersFrom_cons, ih hrest.symm]
      simp only [← isMarkerLine_iff, hline]

end Detect

theorem markerCandidates_congr {a b : Bytes}
    (h : (byteLines a).map isMarkerLine = (byteLines b).map isMarkerLine) :
    markerCandidates a = markerCandidates b := by
  have hlength : (byteLines a).length = (byteLines b).length := by
    simpa using congrArg List.length h
  rw [markerCandidates, markerCandidates, hlength]
  exact markersFrom_congr h _ 1

theorem findings_congr {a b : Bytes} (hmarkers : markerCandidates a = markerCandidates b)
    (hdirectives : directiveCandidates a = directiveCandidates b) :
    findingsOfBytes a = findingsOfBytes b := by
  rw [findingsOfBytes_eq_append, findingsOfBytes_eq_append, hmarkers, hdirectives]

/-- Contents that decode alike have the same findings. -/
theorem findings_eq_of_decode_eq {a b : Bytes} (h : decode a = decode b) :
    findingsOfBytes a = findingsOfBytes b := by
  have hlines : (byteLines a).map decode = (byteLines b).map decode := by
    rw [← lines_decode, ← lines_decode, h]
  refine findings_congr (markerCandidates_congr ?_) ?_
  · calc
      (byteLines a).map isMarkerLine
          = ((byteLines a).map decode).map fun line => seen markerWord (stripLiterals line) := by
            rw [List.map_map]
            exact List.map_congr_left fun line _ => isMarkerLine_eq line
      _ = ((byteLines b).map decode).map fun line => seen markerWord (stripLiterals line) := by
            rw [hlines]
      _ = (byteLines b).map isMarkerLine := by
            rw [List.map_map]
            exact List.map_congr_left fun line _ => (isMarkerLine_eq line).symm
  · rw [directiveCandidates, directiveCandidates, h]

namespace Text

/-- A symbol as bytes, where U+FFFD stands for a stray byte. -/
def Symbol.mended : Symbol → Bytes
  | .char c => String.utf8EncodeChar c
  | .stray _ => String.utf8EncodeChar replacement

/-- A content with every stray byte replaced by U+FFFD. -/
def mended (content : Bytes) : Bytes := (symbols content).flatMap Symbol.mended

theorem mended_eq_encode (content : Bytes) : mended content = encode (decode content) := by
  have hsymbol : ∀ s : Symbol, s.mended = String.utf8EncodeChar s.toChar := by
    rintro (c | b) <;> rfl
  rw [mended, encode, decode, List.flatMap_map]
  exact List.flatMap_congr fun s _ => hsymbol s

@[simp] theorem decode_mended (content : Bytes) : decode (mended content) = decode content := by
  rw [mended_eq_encode, decode_encode]

/-- It is what the content reads as, written as a text. -/
theorem encodeString_decodeString (content : Bytes) :
    encodeString (decodeString content) = mended content := by
  rw [mended_eq_encode, encodeString, decodeString, String.toList_ofList]

end Text

theorem findings_mended (content : Bytes) :
    findingsOfBytes (mended content) = findingsOfBytes content :=
  findings_eq_of_decode_eq (decode_mended content)

end InlineAudit
