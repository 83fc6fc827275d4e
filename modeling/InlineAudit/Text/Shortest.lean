import InlineAudit.Text.Number

/-!
Whole numbers as double precision holds them, in their shortest form: the fewest decimal digits
that read back as the same number, the nearest of those, in scientific notation from a million on.
-/

namespace InlineAudit.Text

/-- The nearest whole number that double precision holds. -/
def nearestDouble (n : Nat) : Nat := (nearestWhole? n 1).getD n

/-- The multiples of a unit on both sides of a number, the nearer first. -/
def multiplesAround (unit n : Nat) : List Nat :=
  let nearest := roundDiv n unit * unit
  if n < nearest then [nearest, nearest - unit] else [nearest, nearest + unit]

/-- The fewest leading digits that read back as `n`, and how many digits are left out. -/
def shortestDigits (n : Nat) : Nat × Nat :=
  let places := (List.range (toString n).length).reverse
  (places.findSome? fun place =>
    let unit := Nat.pow 10 place
    ((multiplesAround unit n).find? (nearestDouble · = n)).map fun m => (m / unit, place)).getD
      (n, 0)

def dropTrailingZeros (digits : List Char) : List Char :=
  (digits.reverse.dropWhile (· = '0')).reverse

/-- A whole number in scientific notation, the exponent with two digits at least. -/
def scientific (n : Nat) : List Char :=
  let (leading, place) := shortestDigits n
  let digits := (toString leading).toList
  let exponent := toString (place + digits.length - 1)
  let mark := if exponent.length < 2 then "e+0" else "e+"
  (match dropTrailingZeros digits with
    | [] => ['0']
    | [digit] => [digit]
    | digit :: rest => digit :: '.' :: rest)
    ++ mark.toList ++ exponent.toList

/-- The first number in scientific notation. -/
def scientificFrom : Nat := 1000000

/-- A whole number as double precision shows it. -/
def doubleChars (n : Int) : List Char :=
  let magnitude := nearestDouble n.natAbs
  (if n < 0 then ['-'] else [])
    ++ (if magnitude < scientificFrom then (toString magnitude).toList else scientific magnitude)

end InlineAudit.Text
