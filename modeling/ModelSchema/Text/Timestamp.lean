/-!
# Timestamps

A moment in Coordinated Universal Time and its text by RFC 3339, to the second. Years beyond 9999
carry a sign, and a leap second is second 60 of its minute.

## Main definitions

* `Timestamp` — seconds since 1970 and nanoseconds; a billion nanoseconds or more is a leap second.
* `Timestamp.civil` — year, month and day of a day number, by the Gregorian calendar.
* `Timestamp.render` — the text of a moment.
-/

namespace ModelSchema

/-- A moment: seconds since the start of 1970, and nanoseconds in that second. -/
structure Timestamp where
  seconds : Int
  nanoseconds : Nat := 0
deriving DecidableEq, Repr

namespace Timestamp

/-- Year, month and day of the day that lies `day` days after the first of January 1970. The
calendar repeats after 146097 days; inside such an era years are counted from March, so that the
leap day comes last. -/
def civil (day : Int) : Int × Nat × Nat :=
  let shifted := day + 719468
  let era := shifted.fdiv 146097
  let dayOfEra := (shifted.fmod 146097).toNat
  let yearOfEra := (dayOfEra - dayOfEra / 1460 + dayOfEra / 36524 - dayOfEra / 146096) / 365
  let dayOfYear := dayOfEra - (365 * yearOfEra + yearOfEra / 4 - yearOfEra / 100)
  let monthFromMarch := (5 * dayOfYear + 2) / 153
  let dayOfMonth := dayOfYear - (153 * monthFromMarch + 2) / 5 + 1
  let month := if monthFromMarch < 10 then monthFromMarch + 3 else monthFromMarch - 9
  let year : Int := yearOfEra + era * 400 + (if month ≤ 2 then 1 else 0)
  (year, month, dayOfMonth)

/-- A number in decimal with zeros in front up to `width` digits. -/
def padded (width n : Nat) : String :=
  let digits := Nat.toDigits 10 n
  String.ofList (List.replicate (width - digits.length) '0' ++ digits)

/-- A year in at least four digits; years before 0 and after 9999 carry their sign. -/
def yearText (year : Int) : String :=
  if year < 0 then "-" ++ padded 4 year.natAbs
  else if year > 9999 then "+" ++ padded 4 year.natAbs
  else padded 4 year.natAbs

/-- The text of a moment. -/
def render (t : Timestamp) : String :=
  let day := t.seconds.fdiv 86400
  let second := (t.seconds.fmod 86400).toNat
  let (year, month, dayOfMonth) := civil day
  let leap := if t.nanoseconds ≥ 1000000000 then 1 else 0
  yearText year ++ "-" ++ padded 2 month ++ "-" ++ padded 2 dayOfMonth ++ "T" ++
    padded 2 (second / 3600) ++ ":" ++ padded 2 (second / 60 % 60) ++ ":" ++
    padded 2 (second % 60 + leap) ++ "Z"

end Timestamp

end ModelSchema
