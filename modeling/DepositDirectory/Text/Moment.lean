/-!
# Moments

A moment is a number of nanoseconds since the start of the year 1970 in universal time.  It is
written as a date and a time of day with a `Z` at the end.  The part of a second is left out when it
is zero and else has three, six or nine digits, as few as show it in full.
-/

namespace DepositDirectory.Text

/--
The year, month and day that a number of days after the first day of 1970.  Years are counted from
March, so that a leap day is the last of its year; four hundred of them have 146097 days.
-/
def dateOf (days : Nat) : Nat × Nat × Nat :=
  let shifted := days + 719468
  let inEra := shifted % 146097
  let yearOfEra := (inEra - inEra / 1460 + inEra / 36524 - inEra / 146096) / 365
  let dayOfYear := inEra - (365 * yearOfEra + yearOfEra / 4 - yearOfEra / 100)
  let monthFromMarch := (5 * dayOfYear + 2) / 153
  let day := dayOfYear - (153 * monthFromMarch + 2) / 5 + 1
  let month := if monthFromMarch < 10 then monthFromMarch + 3 else monthFromMarch - 9
  (yearOfEra + shifted / 146097 * 400 + (if month ≤ 2 then 1 else 0), month, day)

/-- A number with zeros before it up to a width. -/
def padded (width n : Nat) : String :=
  let digits := n.repr
  String.ofList (List.replicate (width - digits.length) '0') ++ digits

def fractionText (nanoseconds : Nat) : String :=
  if nanoseconds = 0 then ""
  else if nanoseconds % 1000000 = 0 then "." ++ padded 3 (nanoseconds / 1000000)
  else if nanoseconds % 1000 = 0 then "." ++ padded 6 (nanoseconds / 1000)
  else "." ++ padded 9 nanoseconds

def momentText (nanoseconds : Nat) : String :=
  let seconds := nanoseconds / 1000000000
  let (year, month, day) := dateOf (seconds / 86400)
  let ofDay := seconds % 86400
  let date := "-".intercalate [padded 4 year, padded 2 month, padded 2 day]
  let time := ":".intercalate
    [padded 2 (ofDay / 3600), padded 2 (ofDay / 60 % 60), padded 2 (ofDay % 60)]
  date ++ "T" ++ time ++ fractionText (nanoseconds % 1000000000) ++ "Z"

example : momentText 951782399000000000 = "2000-02-28T23:59:59Z" := by decide +kernel

example : momentText 951782400120000000 = "2000-02-29T00:00:00.120Z" := by decide +kernel

example : momentText 4107542400000000001 = "2100-03-01T00:00:00.000000001Z" := by decide +kernel

end DepositDirectory.Text
