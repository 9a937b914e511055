/-!
# Points in time

A time is a number of milliseconds since the start of 1970, negative before it. `Time.text` is its
date and time of day in the Gregorian calendar, to the second, without a time zone.
-/

namespace TemplateBundler

abbrev Time := Int

namespace Time

/-! ## Algorithm -/

/-- The epoch itself stands for "never". -/
def never : Time := 0

structure Date where
  year : Int
  month : Nat
  day : Nat
deriving DecidableEq, Repr

/-- The date of a day counted from the start of 1970. Years are counted from March here, in eras of
400 years, so that a leap day comes last in its year. -/
def dateOfDay (days : Int) : Date :=
  let shifted := days + 719468
  let era := Int.fdiv shifted 146097
  let dayOfEra := (shifted - era * 146097).toNat
  let yearOfEra := (dayOfEra - dayOfEra / 1460 + dayOfEra / 36524 - dayOfEra / 146096) / 365
  let dayOfYear := dayOfEra - (365 * yearOfEra + yearOfEra / 4 - yearOfEra / 100)
  let fromMarch := (5 * dayOfYear + 2) / 153
  let month := if fromMarch < 10 then fromMarch + 3 else fromMarch - 9
  ⟨yearOfEra + era * 400 + (if month ≤ 2 then 1 else 0), month,
    dayOfYear - (153 * fromMarch + 2) / 5 + 1⟩

/-- A number with zeros before it up to a width. -/
def padded (width n : Nat) : String :=
  let digits := toString n
  String.ofList (List.replicate (width - digits.length) '0') ++ digits

/-- A year of other than four digits has a sign. -/
def yearText (y : Int) : String :=
  if y < 0 then "-" ++ padded 4 y.natAbs
  else if y > 9999 then "+" ++ toString y.natAbs
  else padded 4 y.natAbs

def text (time : Time) : String :=
  let seconds := Int.fdiv time 1000
  let days := Int.fdiv seconds 86400
  let rest := (seconds - days * 86400).toNat
  let date := dateOfDay days
  yearText date.year ++ "-" ++ padded 2 date.month ++ "-" ++ padded 2 date.day ++ " " ++
    padded 2 (rest / 3600) ++ ":" ++ padded 2 (rest / 60 % 60) ++ ":" ++ padded 2 (rest % 60)

end Time

end TemplateBundler
