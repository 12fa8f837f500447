/-!
# Calendar dates

The date of a day number in the calendar that is in use today, carried on without end in both
directions, and the written form of a moment given in milliseconds. Day 0 is the first of January
1970. A year of at most four digits is written with four; any other year with its sign.
-/

namespace BufferCoherence.Calendar

/-- A day of the calendar. -/
structure Date where
  year : Int
  month : Nat
  day : Nat
deriving DecidableEq

/-- The days before each month of a year that starts in March. -/
def daysBeforeMonth (m : Nat) : Nat := (153 * m + 2) / 5

/-- The date of a day number. The years are counted from March on, so that the day that is added
    in a leap year is the last of its year; four hundred such years always have 146097 days. -/
def Date.ofDayNumber (n : Int) : Date :=
  let shifted := n + 719468
  let era := shifted / 146097
  let dayOfEra := (shifted % 146097).toNat
  let yearOfEra :=
    (dayOfEra - dayOfEra / 1460 + dayOfEra / 36524 - dayOfEra / 146096) / 365
  let dayOfYear := dayOfEra - (365 * yearOfEra + yearOfEra / 4 - yearOfEra / 100)
  let m := (5 * dayOfYear + 2) / 153
  let month := if m < 10 then m + 3 else m - 9
  let year := (yearOfEra : Int) + era * 400 + (if month ≤ 2 then 1 else 0)
  ⟨year, month, dayOfYear - daysBeforeMonth m + 1⟩

/-- A number with zeros in front, up to a width. -/
def padded (width n : Nat) : String :=
  let digits := toString n
  String.ofList (List.replicate (width - digits.length) '0') ++ digits

/-- A year with at least four digits, and with its sign where four digits are not enough. -/
def yearText (y : Int) : String :=
  if 0 ≤ y ∧ y ≤ 9999 then padded 4 y.toNat
  else (if y < 0 then "-" else "+") ++ padded 4 y.natAbs

/-- The moment `ms` milliseconds after the start of day 0, to the millisecond. -/
def momentText (ms : Int) : String :=
  let date := Date.ofDayNumber (ms / 86400000)
  let rest := (ms % 86400000).toNat
  let day := yearText date.year ++ "-" ++ padded 2 date.month ++ "-" ++ padded 2 date.day
  let time := padded 2 (rest / 3600000) ++ ":" ++ padded 2 (rest / 60000 % 60) ++ ":" ++
    padded 2 (rest / 1000 % 60) ++ "." ++ padded 3 (rest % 1000)
  day ++ " " ++ time

end BufferCoherence.Calendar
