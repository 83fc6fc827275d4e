import InlineAudit.Json
import InlineAudit.Log.Level
import InlineAudit.Text.Lines
import InlineAudit.Text.Number
import InlineAudit.Text.Upper

/-!
Log events and their two written forms: a JSON object on a line, and a line for people. The second
one shows time, level, place and message first, and then the other fields in the order of their
names. Of several fields with one name it shows the last, so an event may have a level of its own.
-/

namespace InlineAudit.Log

open Text Json

inductive FieldValue where
  | text (s : String)
  | number (n : Int)
  | texts (l : List Raw)
  deriving DecidableEq, Repr, Inhabited

structure Event where
  level : Level
  message : String
  fields : List (String × FieldValue) := []
  deriving DecidableEq, Repr, Inhabited

/-- A moment, in universal time. -/
structure Moment where
  year : Nat
  month : Nat
  day : Nat
  hour : Nat
  minute : Nat
  second : Nat
  deriving DecidableEq, Repr, Inhabited

/-- The last `width` decimal digits of a number. -/
def decimalDigits : Nat → Nat → List Char
  | 0, _ => []
  | width + 1, n => decimalDigits width (n / 10) ++ [Nat.digitChar (n % 10)]

/-- Date and time, as in 2024-01-02T03:04:05Z. -/
def Moment.stamp (m : Moment) : String :=
  String.ofList (decimalDigits 4 m.year ++ '-' :: decimalDigits 2 m.month
    ++ '-' :: decimalDigits 2 m.day ++ 'T' :: decimalDigits 2 m.hour
    ++ ':' :: decimalDigits 2 m.minute ++ ':' :: decimalDigits 2 m.second ++ ['Z'])

/-- The time of day on a clock of twelve hours, as in 3:04AM. -/
def Moment.clock (m : Moment) : String :=
  let hour := if m.hour % 12 = 0 then 12 else m.hour % 12
  toString hour ++ ":" ++ String.ofList (decimalDigits 2 m.minute)
    ++ (if m.hour < 12 then "AM" else "PM")

def FieldValue.toJson : FieldValue → Json.Value
  | .text s => .str s
  | .number n => .int n
  | .texts l => .arr (l.map .str)

/-- What JSON lines escape: the delete character, which is invisible. -/
def lineEscapes : List Char := ['\x7f']

def levelName : String := "level"
def timeName : String := "time"
def messageName : String := "message"
def callerName : String := "caller"

/-- All that a line tells: the level, the fields, the time if there is a clock, and the message
unless it is empty. -/
def Event.entries (event : Event) (time : Option Moment) : List (String × FieldValue) :=
  [(levelName, .text event.level.name)] ++ event.fields
    ++ (time.map fun m => (timeName, FieldValue.text m.stamp)).toList
    ++ (if event.message = "" then [] else [(messageName, .text event.message)])

def Event.toJson (event : Event) (time : Option Moment) : Json.Value :=
  .obj ((event.entries time).map fun (key, value) => (key, value.toJson))

def Event.jsonLine (event : Event) (time : Option Moment) : String :=
  String.ofList (compact lineEscapes (event.toJson time) ++ ['\n'])

/-- A text between the codes that switch a terminal attribute on and all attributes off. Without
colours, and for empty texts, there are no codes. -/
def paint (colours : Bool) (code : Nat) (text : String) : String :=
  if colours && text ≠ "" then "\x1b[" ++ toString code ++ "m" ++ text ++ "\x1b[0m" else text

/-- How a line for people shows a level. -/
structure Label where
  name : String
  number : Int
  text : String
  colour : Option Nat
  /-- Whether messages of the level stand out. -/
  bold : Bool
  deriving DecidableEq, Repr

def labels : List Label :=
  [⟨"trace", -1, "TRC", some 34, false⟩,
   ⟨"debug", 0, "DBG", none, false⟩,
   ⟨"info", 1, "INF", some 32, true⟩,
   ⟨"warn", 2, "WRN", some 33, true⟩,
   ⟨"error", 3, "ERR", some 31, true⟩,
   ⟨"fatal", 4, "FTL", some 31, true⟩,
   ⟨"panic", 5, "PNC", some 31, true⟩]

/-- The label of a level that is given by its name, whatever the case, or by its number. -/
def label? (level : String) : Option Label :=
  (labels.find? (·.name = level.toLower)).or
    ((readIntegerIn 10 level.toList).toOption.bind fun n => labels.find? (·.number = n))

/-- The label of a level without one: its first three bytes, in upper case. -/
def cutLabel (level : String) : String :=
  if level = "" then "???" else upperString (decodeString ((encodeString level).take 3))

/-- A value as text. -/
def FieldValue.shown : FieldValue → String
  | .text s => s
  | .number n => toString n
  | .texts l => "[" ++ join " " (l.map Raw.shown) ++ "]"

/-- The level in front of a line. -/
def levelPart (colours : Bool) (level : FieldValue) : String :=
  match level with
  | .text s =>
    match label? s with
    | some label => label.colour.elim label.text (paint colours · label.text)
    | none => cutLabel s
  | level => cutLabel level.shown

/-- The message, which stands out on some levels if these are spelled exactly. -/
def messagePart (colours : Bool) (level : FieldValue) (message : FieldValue) : String :=
  let bold := labels.any fun label => label.bold && level = .text label.name
  if bold then paint colours 1 message.shown else message.shown

/-- The place in a program where the event comes from. -/
def callerPart (colours : Bool) : FieldValue → String
  | .text s => if s = "" then "" else paint colours 1 s ++ paint colours 36 " >"
  | _ => ""

/-- Whether a character makes a field value hard to tell from its surroundings. -/
def needsQuotes (c : Char) : Bool := c.toNat < 0x21 || c.toNat > 0x7E || c == '\\' || c == '"'

/-- What lists escape: the line separators that scripts do not take for text. -/
def listEscapes : List Char := ['\u2028', '\u2029']

def FieldValue.consoleText : FieldValue → String
  | .text s => if s.toList.any needsQuotes then quote s else s
  | .number n => toString n
  | .texts l => String.ofList (compact listEscapes (.strings (l.map Raw.shown)))

/-- The name of the field that tells a cause; it stands in front of the others. -/
def causeName : String := "error"

def consoleField (colours : Bool) : String × FieldValue → String
  | (key, value) =>
    let text := value.consoleText
    paint colours 36 (key ++ "=")
      ++ (if key = causeName then paint colours 31 (paint colours 1 text) else text)

/-- The names of the parts in front of the fields. -/
def partNames : List String := [levelName, timeName, messageName, callerName]

/-- The value that counts among those of one name. -/
def lastOf? (entries : List (String × FieldValue)) (name : String) : Option FieldValue :=
  entries.reverse.lookup name

/-- The fields of a console line, sorted by name, the cause first. A field without a name is left
out if there is a cause. -/
def consoleFields (entries : List (String × FieldValue)) : List (String × FieldValue) :=
  let names := ((entries.map (·.1)).eraseDups.filter (!partNames.contains ·)).mergeSort
    (fun a b => a ≤ b)
  let ordered :=
    if names.contains causeName then
      causeName :: names.filter fun name => name ≠ causeName && name ≠ ""
    else names
  ordered.filterMap fun name => (lastOf? entries name).map (name, ·)

/-- An event as a line for people; parts without text are left out. -/
def Event.consoleLine (colours : Bool) (event : Event) (time : Option Moment) : String :=
  let entries := event.entries time
  let level := (lastOf? entries levelName).getD (.text "")
  let parts :=
    [((time.map fun m => paint colours 90 m.clock).getD ""),
     levelPart colours level,
     ((lastOf? entries callerName).map (callerPart colours)).getD "",
     ((lastOf? entries messageName).map (messagePart colours level)).getD ""]
  join " " (parts.filter (· ≠ "") ++ (consoleFields entries).map (consoleField colours)) ++ "\n"

end InlineAudit.Log
