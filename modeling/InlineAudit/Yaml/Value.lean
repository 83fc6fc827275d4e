import InlineAudit.Text.Number
import InlineAudit.Text.Raw

/-!
What a scalar means. A plain scalar tells its type by its spelling: null, truth values, integers,
decimal fractions and dates have forms of their own, and everything else is text. A tag may ask for
one of the types; with any other tag a scalar is text.
-/

namespace InlineAudit.Yaml

open Text

/-- A floating-point number, as far as an integer can be made of it. -/
inductive FloatValue where
  | nan
  | posInf
  | negInf
  /-- A finite number, by its integer part. -/
  | finite (whole : Int)
  deriving DecidableEq, Repr

inductive Value where
  | null
  | bool (b : Bool)
  | int (n : Int)
  | float (f : FloatValue)
  | time
  | text (s : Raw)
  deriving DecidableEq, Repr

def nullTag : String := "!!null"
def boolTag : String := "!!bool"
def intTag : String := "!!int"
def floatTag : String := "!!float"
def timeTag : String := "!!timestamp"
def textTag : String := "!!str"
def binaryTag : String := "!!binary"
def mergeTag : String := "!!merge"
def sequenceTag : String := "!!seq"
def mappingTag : String := "!!map"

def Value.tag : Value → String
  | null => nullTag
  | bool _ => boolTag
  | int _ => intTag
  | float _ => floatTag
  | time => timeTag
  | text _ => textTag

/-- The values with a fixed spelling. -/
def constants : List (String × Value) :=
  [("true", .bool true), ("True", .bool true), ("TRUE", .bool true),
   ("false", .bool false), ("False", .bool false), ("FALSE", .bool false),
   ("", .null), ("~", .null), ("null", .null), ("Null", .null), ("NULL", .null),
   (".nan", .float .nan), (".NaN", .float .nan), (".NAN", .float .nan),
   (".inf", .float .posInf), (".Inf", .float .posInf), (".INF", .float .posInf),
   ("+.inf", .float .posInf), ("+.Inf", .float .posInf), ("+.INF", .float .posInf),
   ("-.inf", .float .negInf), ("-.Inf", .float .negInf), ("-.INF", .float .negInf)]

/-- One or two digits, and what follows them. -/
def shortNumber? : List Char → Option (Nat × List Char)
  | a :: b :: rest =>
    if a.isDigit then
      if b.isDigit then some ((a.toNat - 48) * 10 + (b.toNat - 48), rest)
      else some (a.toNat - 48, b :: rest)
    else none
  | [a] => if a.isDigit then some (a.toNat - 48, []) else none
  | [] => none

/-- A number below a bound, and what follows it. -/
def shortBelow? (bound : Nat) (text : List Char) : Option (List Char) :=
  (shortNumber? text).bind fun (n, rest) => if n < bound then some rest else none

/-- What follows a given character. -/
def behind? (c : Char) : List Char → Option (List Char)
  | d :: rest => if c = d then some rest else none
  | [] => none

def daysIn (year month : Nat) : Nat :=
  if month = 2 then
    if year % 4 = 0 && (year % 100 ≠ 0 || year % 400 = 0) then 29 else 28
  else if [4, 6, 9, 11].contains month then 30
  else 31

/-- A date, and what follows it. -/
def date? (text : List Char) : Option (List Char) := do
  let year := text.takeWhile Char.isDigit
  if year.length ≠ 4 then none
  else
    let rest ← behind? '-' (text.drop 4)
    let (month, rest) ← shortNumber? rest
    let rest ← behind? '-' rest
    let (day, rest) ← shortNumber? rest
    if 1 ≤ month && month ≤ 12 && 1 ≤ day && day ≤ daysIn (digitsValue year) month then
      return rest
    else none

/-- A time of day with a fraction of a second or none, and what follows it. -/
def timeOfDay? (text : List Char) : Option (List Char) := do
  let rest ← shortBelow? 24 text
  let rest ← shortBelow? 60 (← behind? ':' rest)
  let rest ← shortBelow? 60 (← behind? ':' rest)
  match rest with
  | mark :: digit :: more =>
    if (mark = '.' || mark = ',') && digit.isDigit then return more.dropWhile Char.isDigit
    else return rest
  | _ => return rest

/-- A time zone: universal time or a signed difference to it. -/
def isZone (text : List Char) : Bool :=
  match text with
  | ['Z'] => true
  | [sign, a, b, ':', c, d] =>
    (sign = '+' || sign = '-') && [a, b, c, d].all Char.isDigit
      && digitsValue [a, b] ≤ 24 && digitsValue [c, d] ≤ 60
  | _ => false

/-- Whether a text is a date, alone or with a time of day. -/
def isTime (text : List Char) : Bool :=
  match date? text with
  | none => false
  | some [] => true
  | some (c :: rest) =>
    if c = 'T' || c = 't' then ((timeOfDay? rest).map isZone).getD false
    else if c = ' ' then
      ((timeOfDay? (rest.dropWhile (· = ' '))).map List.isEmpty).getD false
    else false

/-- The decimal fraction that a text is, within the range of double precision. -/
def float? (text : List Char) : Option Value :=
  ((readDecimal? text).bind Decimal.whole?).map fun whole => .float (.finite whole)

/-- An integer behind an announced base, where the sign may stand behind the announcement too. -/
def announced? (text : List Char) : Option Int :=
  match text with
  | '0' :: 'b' :: rest => (readIntegerIn 2 rest).toOption
  | '-' :: '0' :: 'b' :: rest => (readIntegerIn 2 ('-' :: rest)).toOption
  | '0' :: 'o' :: rest => (readIntegerIn 8 rest).toOption
  | '-' :: '0' :: 'o' :: rest => (readIntegerIn 8 ('-' :: rest)).toOption
  | _ => none

/-- The number that a text is; underscores between its digits do not count. -/
def number? (text : List Char) : Option Value :=
  let plain := text.filter (· ≠ '_')
  match readInteger plain, readMagnitude plain with
  | .ok n, _ => some (.int n)
  | .error _, .ok n => some (.int n)
  | .error _, .error _ => (float? plain).or ((announced? plain).map .int)

/-- The value of a scalar by its spelling. Dates are looked for only where they are admitted. -/
def Value.ofPlain (dates : Bool) (text : String) : Value :=
  let chars := text.toList
  match constants.lookup text with
  | some value => value
  | none =>
    match chars with
    | '.' :: _ =>
      let plain := if underscoresFit chars then chars.filter (· ≠ '_') else chars
      (float? plain).getD (.text text)
    | c :: _ =>
      if c.isDigit || c = '+' || c = '-' then
        if dates && isTime chars then .time else (number? chars).getD (.text text)
      else .text text
    | [] => .null

/-- The value of six bits in the encoding of binary text. -/
def sextet? (c : Char) : Option Nat :=
  if 'A' ≤ c && c ≤ 'Z' then some (c.toNat - 'A'.toNat)
  else if 'a' ≤ c && c ≤ 'z' then some (c.toNat - 'a'.toNat + 26)
  else if c.isDigit then some (c.toNat - '0'.toNat + 52)
  else if c = '+' then some 62
  else if c = '/' then some 63
  else none

/-- The bytes of binary text in groups of four characters. -/
def binaryBytes? : List Char → Option Bytes
  | [] => some []
  | [a, b, '=', '='] => do
    let n := (← sextet? a) * 64 + (← sextet? b)
    return [UInt8.ofNat (n / 16)]
  | [a, b, c, '='] => do
    let n := ((← sextet? a) * 64 + (← sextet? b)) * 64 + (← sextet? c)
    return [UInt8.ofNat (n / 1024), UInt8.ofNat (n / 4 % 256)]
  | a :: b :: c :: d :: rest => do
    let n := (((← sextet? a) * 64 + (← sextet? b)) * 64 + (← sextet? c)) * 64 + (← sextet? d)
    let more ← binaryBytes? rest
    return UInt8.ofNat (n / 65536) :: UInt8.ofNat (n / 256 % 256) :: UInt8.ofNat (n % 256) :: more
  | _ => none

/-- The tags that ask for a type which the spelling has to show. -/
def spelledTags : List String := [nullTag, boolTag, intTag, floatTag, timeTag]

/-- The value of a scalar with a tag. An integer will do where a fraction is asked for; any other
disagreement between tag and spelling is an error. -/
def Value.ofTagged? (tag text : String) : Option Value :=
  if tag = binaryTag then
    (binaryBytes? (text.toList.filter fun c => c ≠ '\n' && c ≠ '\r')).map fun bytes =>
      .text (.ofBytes bytes)
  else if !spelledTags.contains tag then some (.text text)
  else
    let value := Value.ofPlain (tag = timeTag) text
    if tag = value.tag then some value
    else match value with
      | .int n =>
        if tag = floatTag && n ≤ int64Max then
          (float? (toString n).toList)
        else none
      | _ => none

/-- The integer that a value gives, if it gives one. Fractions are cut; beyond the range of 64
bits only what is negative, and the power of two right above the range, gives the least integer. -/
def Value.toInt? : Value → Option Int
  | .int n => if n ≤ int64Max then some n else none
  | .float (.finite whole) =>
    if int64Max + 1 < whole then none
    else if whole < int64Min || int64Max < whole then some int64Min
    else some whole
  | .float .negInf => some int64Min
  | _ => none

def trueWords : List String := ["y", "Y", "yes", "Yes", "YES", "on", "On", "ON"]

def falseWords : List String := ["n", "N", "no", "No", "NO", "off", "Off", "OFF"]

/-- The truth value that a value gives; some words stand for one too. -/
def Value.toBool? : Value → Option Bool
  | .bool b => some b
  | .text s =>
    if trueWords.contains s.shown then some true
    else if falseWords.contains s.shown then some false
    else none
  | _ => none

end InlineAudit.Yaml
