/-!
Numbers written as text: integers of 64 bits with an optional base, and decimal fractions as the
binary floating-point numbers nearest to them.
-/

namespace InlineAudit.Text

def int64Min : Int := -9223372036854775808

def int64Max : Int := 9223372036854775807

/-- The largest number of 64 bits without a sign. -/
def word64Max : Nat := 18446744073709551615

/-- Why a text is no number. -/
inductive NumberFault where
  | malformed
  | outOfRange
  deriving DecidableEq, Repr

/-- The value of a digit; letters go on where the decimal digits end, whatever their case. -/
def digitValue? (c : Char) : Option Nat :=
  if c.isDigit then some (c.toNat - '0'.toNat)
  else if c.isAlpha then some (c.toLower.toNat - 'a'.toNat + 10)
  else none

/-- Reads digits behind a number read so far. Underscores are left out; the first digit that leads
beyond 64 bits ends the reading. -/
def magnitudeFrom (base n : Nat) : List Char → Except NumberFault Nat
  | [] => .ok n
  | c :: rest =>
    if c = '_' then magnitudeFrom base n rest
    else match digitValue? c with
      | none => .error .malformed
      | some d =>
        if base ≤ d then .error .malformed
        else if word64Max < n * base + d then .error .outOfRange
        else magnitudeFrom base (n * base + d) rest

/-- The base that a text announces, and the digits behind the announcement. -/
def splitBase (text : List Char) : Nat × List Char :=
  match text with
  | '0' :: mark :: digit :: rest =>
    if mark.toLower = 'b' then (2, digit :: rest)
    else if mark.toLower = 'o' then (8, digit :: rest)
    else if mark.toLower = 'x' then (16, digit :: rest)
    else (8, mark :: digit :: rest)
  | '0' :: rest => (8, rest)
  | text => (10, text)

/-- What stands before a character when underscores are judged. -/
inductive Before where
  | start
  | digit
  | underscore
  | other
  deriving DecidableEq

/-- Whether every underscore has a digit on both sides. -/
def underscoresBetween (hexadecimal : Bool) : Before → List Char → Bool
  | before, [] => before ≠ .underscore
  | before, c :: rest =>
    if c.isDigit || hexadecimal && ('a' ≤ c.toLower && c.toLower ≤ 'f') then
      underscoresBetween hexadecimal .digit rest
    else if c = '_' then before = .digit && underscoresBetween hexadecimal .underscore rest
    else before ≠ .underscore && underscoresBetween hexadecimal .other rest

/-- Whether underscores only separate digits; the announcement of a base counts as a digit. -/
def underscoresFit (text : List Char) : Bool :=
  match text with
  | '0' :: mark :: rest =>
    if mark.toLower = 'x' then underscoresBetween true .digit rest
    else if mark.toLower = 'b' || mark.toLower = 'o' then underscoresBetween false .digit rest
    else underscoresBetween false .start text
  | text => underscoresBetween false .start text

/-- A number without sign, in the base that it announces. -/
def readMagnitude (text : List Char) : Except NumberFault Nat :=
  if text.isEmpty then .error .malformed
  else do
    let (base, digits) := splitBase text
    let n ← magnitudeFrom base 0 digits
    if text.contains '_' && !underscoresFit text then .error .malformed else return n

/-- Splits a sign off. -/
def splitSign : List Char → Bool × List Char
  | '-' :: rest => (true, rest)
  | '+' :: rest => (false, rest)
  | text => (false, text)

/-- A magnitude with its sign, if it fits into 64 bits. -/
def signed (negative : Bool) (n : Nat) : Except NumberFault Int :=
  let value : Int := if negative then -n else n
  if value < int64Min || int64Max < value then .error .outOfRange else .ok value

/-- An integer in the base that it announces. -/
def readInteger (text : List Char) : Except NumberFault Int := do
  let (negative, rest) := splitSign text
  signed negative (← readMagnitude rest)

/-- An integer in a given base, without underscores. -/
def readIntegerIn (base : Nat) (text : List Char) : Except NumberFault Int := do
  let (negative, rest) := splitSign text
  if rest.isEmpty || rest.contains '_' then .error .malformed
  else signed negative (← magnitudeFrom base 0 rest)

/-- A decimal fraction: its digits read as one number, and the power of ten they count. -/
structure Decimal where
  negative : Bool
  digits : Nat
  exponent : Int
  deriving DecidableEq, Repr

def digitsValue (digits : List Char) : Nat :=
  digits.foldl (fun n c => n * 10 + (c.toNat - '0'.toNat)) 0

/-- The exponent at the end of a decimal fraction. -/
def readExponent? : List Char → Option Int
  | [] => some 0
  | c :: rest =>
    if c = 'e' || c = 'E' then
      let (negative, digits) := splitSign rest
      if digits.isEmpty || !digits.all Char.isDigit then none
      else some (if negative then -(digitsValue digits) else digitsValue digits)
    else none

/-- A decimal fraction: digits, a point and further digits or none, an exponent or none. A
fraction that starts with the point needs a digit behind it. -/
def readDecimal? (text : List Char) : Option Decimal := do
  let (negative, rest) := splitSign text
  let whole := rest.takeWhile Char.isDigit
  let rest := rest.dropWhile Char.isDigit
  let (fraction, rest) :=
    match rest with
    | '.' :: rest => (rest.takeWhile Char.isDigit, rest.dropWhile Char.isDigit)
    | rest => ([], rest)
  if whole.isEmpty && fraction.isEmpty then none
  else
    let exponent ← readExponent? rest
    return ⟨negative, digitsValue (whole ++ fraction), exponent - fraction.length⟩

/-- The quotient rounded to the nearest integer, a half to the even neighbour. -/
def roundDiv (num den : Nat) : Nat :=
  let q := num / den
  let twice := 2 * (num % den)
  if den < twice || (den = twice && q % 2 = 1) then q + 1 else q

/-- The binary number with 53 digits nearest to a positive quotient, cut to its integer part.
There is none beyond the range of double precision. -/
def nearestWhole? (num den : Nat) : Option Nat :=
  let estimate : Int := (num.log2 : Int) - den.log2
  let power : Int := if num <<< (-estimate).toNat < den <<< estimate.toNat then estimate - 1
    else estimate
  let shift : Int := max (power - 52) (-1074)
  let scaled := roundDiv (num <<< (-shift).toNat) (den <<< shift.toNat)
  let whole := scaled <<< shift.toNat >>> (-shift).toNat
  if 1 <<< 1024 ≤ whole then none else some whole

/-- The integer part of the double nearest to a decimal fraction, if there is one. -/
def Decimal.whole? (d : Decimal) : Option Int :=
  let size : Int := (toString d.digits).length + d.exponent
  let magnitude :=
    if d.digits = 0 || size < 0 then some 0
    else if 310 < size then none
    else nearestWhole? (d.digits * Nat.pow 10 d.exponent.toNat) (Nat.pow 10 (-d.exponent).toNat)
  magnitude.map fun n => if d.negative then -(n : Int) else n

end InlineAudit.Text
