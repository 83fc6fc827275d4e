import InlineAudit.Yaml.Input
import InlineAudit.Yaml.Scalar

/-!
Names in YAML: anchors, aliases, tags and directives. Each reader returns the token it read and
the cursor behind it.
-/

namespace InlineAudit.Yaml

open Text

/-- The characters that may follow the name of an anchor directly. -/
def nameFollowers : List Char := ['?', ':', ',', ']', '\x7d', '%', '@', '\x60']

/-- The name of an anchor or an alias, behind its mark. -/
def anchorName? (cursor : Cursor) : Option (String × Cursor) :=
  let name := cursor.rest.takeWhile isNameChar
  let after := cursor.skip name.length
  if name.isEmpty then none
  else if gapAhead after.rest || (after.rest.head?.map nameFollowers.contains).getD false then
    some (String.ofList name, after)
  else none

/-- The characters of a tag that stand for themselves. -/
def isTagChar (c : Char) : Bool :=
  isNameChar c || [';', '/', '?', ':', '@', '&', '=', '+', '$', ',', '.', '!', '~', '*', '\'',
    '(', ')', '[', ']'].contains c

/-- The bytes of a tag up to the first character that cannot be part of it, with escaped bytes
read, and the number of characters taken. The argument `owed` tells how many further bytes the
escaped character at hand needs, which are escaped as well. -/
def tagBytes? : (owed : Nat) → List Char → Option (Bytes × Nat)
  | owed, '%' :: a :: b :: rest => do
    let byte := UInt8.ofNat ((← hexValue? a) * 16 + (← hexValue? b))
    let width := if owed = 0 then leadWidth byte else owed
    if width = 0 || (0 < owed && (byte < 0x80 || 0xC0 ≤ byte)) then none
    else
      let (more, count) ← tagBytes? (width - 1) rest
      return (byte :: more, count + 3)
  | owed, c :: rest =>
    if 0 < owed || c = '%' then none
    else if isTagChar c then
      (tagBytes? 0 rest).map fun (more, count) => (String.utf8EncodeChar c ++ more, count + 1)
    else some ([], 0)
  | owed, [] => if 0 < owed then none else some ([], 0)

/-- The text of a tag; bytes that make no character are shown as such. -/
def tagText? (cursor : Cursor) : Option (String × Cursor) :=
  (tagBytes? 0 cursor.rest).map fun (bytes, count) => (decodeString bytes, cursor.skip count)

/-- A handle: a mark, a name and a second mark. Without the second one the text so far is
returned. -/
def tagHandle? (cursor : Cursor) : Option (String × Cursor) :=
  match cursor.rest with
  | '!' :: rest =>
    let name := rest.takeWhile isNameChar
    let after := cursor.skip (name.length + 1)
    if after.rest.head? = some '!' then
      some (String.ofList ('!' :: name ++ ['!']), after.skip 1)
    else some (String.ofList ('!' :: name), after)
  | _ => none

/-- Whether a text is a handle with both marks. -/
def isHandle (handle : String) : Bool := handle.length > 1 && handle.endsWith "!"

/-- A tag: spelled out between angle brackets, behind a handle, or by itself. -/
def tag? (cursor : Cursor) : Option (Kind × Cursor) := do
  let (handle, suffix, after) ←
    match cursor.rest with
    | '!' :: '<' :: _ => do
      let (text, after) ← tagText? (cursor.skip 2)
      if text = "" || after.rest.head? ≠ some '>' then none else some ("", text, after.skip 1)
    | _ => do
      let (handle, after) ← tagHandle? cursor
      if isHandle handle then do
        let (suffix, after) ← tagText? after
        if suffix = "" then none else some (handle, suffix, after)
      else do
        let (more, after) ← tagText? after
        let suffix := String.ofList (handle.toList.drop 1) ++ more
        if suffix = "" then some ("", "!", after) else some ("!", suffix, after)
  if gapAhead after.rest then return (.tag handle suffix, after) else none

/-- The number in a version, of one digit or two. -/
def versionNumber? (cursor : Cursor) : Option (Nat × Cursor) :=
  let digits := cursor.rest.takeWhile Char.isDigit
  if digits.isEmpty || 2 < digits.length then none
  else some (digits.foldl (fun n c => n * 10 + (c.toNat - '0'.toNat)) 0,
    cursor.skip digits.length)

/-- The rest of a directive that tells the version. -/
def versionDirective? (cursor : Cursor) : Option (Kind × Cursor) := do
  let (major, after) ← versionNumber? cursor.skipSpaces
  if after.rest.head? ≠ some '.' then none
  else
    let (minor, after) ← versionNumber? (after.skip 1)
    return (.version major minor, after)

/-- The rest of a directive that gives a handle its meaning. -/
def handleDirective? (cursor : Cursor) : Option (Kind × Cursor) := do
  let (handle, after) ← tagHandle? cursor.skipSpaces
  if handle ≠ "!" && !isHandle handle then none
  else if !(after.rest.head?.map isSpace).getD false then none
  else
    let (stem, after) ← tagText? after.skipSpaces
    if stem = "" || !gapAhead after.rest then none else return (.tagDirective handle stem, after)

/-- A directive, behind its mark, up to the end of its line. -/
def directive? (cursor : Cursor) : Option (Kind × Cursor) := do
  let name := cursor.rest.takeWhile isNameChar
  let after := cursor.skip name.length
  if !gapAhead after.rest then none
  else
    let (kind, after) ←
      if name = "YAML".toList then versionDirective? after
      else if name = "TAG".toList then handleDirective? after
      else none
    let after := after.skipSpaces
    let after := if after.rest.head? = some '#' then after.skipToBreak else after
    if !lineEnds after.rest then none
    else return (kind, ⟨after.rest.drop 1, after.place.nextLine⟩)

end InlineAudit.Yaml
