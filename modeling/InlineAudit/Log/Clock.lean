import InlineAudit.Log.Event

/-!
Moments from a count of seconds. Years are counted from the first of March, so that the leap day
is the last day of its year and every span of 400 years has the same days.
-/

namespace InlineAudit.Log

/-- The days of 400 years. -/
def eraDays : Nat := 146097

/-- The days between the first of March of the year 0 and the first of January 1970. -/
def epochDay : Nat := 719468

/-- The year, month and day of the month, from the days since the first of March of the year 0. -/
def dateOfDay (day : Nat) : Nat × Nat × Nat :=
  let inEra := day % eraDays
  let yearOfEra := (inEra - inEra / 1460 + inEra / 36524 - inEra / 146096) / 365
  let inYear := inEra - (365 * yearOfEra + yearOfEra / 4 - yearOfEra / 100)
  let fromMarch := (5 * inYear + 2) / 153
  let month := if fromMarch < 10 then fromMarch + 3 else fromMarch - 9
  let year := day / eraDays * 400 + yearOfEra + (if month ≤ 2 then 1 else 0)
  (year, month, inYear - (153 * fromMarch + 2) / 5 + 1)

/-- The moment a number of seconds after the start of 1970. -/
def Moment.ofSeconds (seconds : Nat) : Moment :=
  let (year, month, day) := dateOfDay (seconds / 86400 + epochDay)
  let inDay := seconds % 86400
  ⟨year, month, day, inDay / 3600, inDay / 60 % 60, inDay % 60⟩

example : Moment.ofSeconds 1704164645 = ⟨2024, 1, 2, 3, 4, 5⟩ := by decide

example : Moment.ofSeconds 951782400 = ⟨2000, 2, 29, 0, 0, 0⟩ := by decide

end InlineAudit.Log
