import PromptForm.Text.Blank
import PromptForm.Number.Reading

/-!
# Calendar dates

Dates of the Gregorian calendar, extended to all years. A day is counted from 1 January 1970; the civil
date of a day and the day of a civil date are computed in eras of 400 years. The weeks of ISO 8601 belong
to the year that holds their Thursday.
-/

namespace PromptForm.Calendar

structure Date where
  year : Int
  month : Nat
  day : Nat
deriving DecidableEq, Repr

def isLeap (year : Int) : Bool := year % 4 == 0 && (year % 100 != 0 || year % 400 == 0)

def monthDays (year : Int) (month : Nat) : Nat :=
  if month == 2 then (if isLeap year then 29 else 28)
  else if month == 4 || month == 6 || month == 9 || month == 11 then 30 else 31

/-- The years that dates may have. -/
def minYear : Int := -262143
def maxYear : Int := 262142

namespace Date

/-- The date exists. -/
def isValid (d : Date) : Bool :=
  minYear ≤ d.year && d.year ≤ maxYear && 1 ≤ d.month && d.month ≤ 12 &&
  1 ≤ d.day && d.day ≤ monthDays d.year d.month

/-- Days since 1 January 1970. The year is taken to begin in March, so that the leap day ends it. -/
def toDays (d : Date) : Int :=
  let y := if d.month ≤ 2 then d.year - 1 else d.year
  let era := y.fdiv 400
  let yearOfEra := y - era * 400
  let monthFromMarch : Int := if d.month ≤ 2 then d.month + 9 else d.month - 3
  let dayOfYear : Int := (153 * monthFromMarch + 2) / 5 + d.day - 1
  era * 146097 + (yearOfEra * 365 + yearOfEra / 4 - yearOfEra / 100 + dayOfYear) - 719468

def ofDays (days : Int) : Date :=
  let z := days + 719468
  let era := z.fdiv 146097
  let dayOfEra := z - era * 146097
  let yearOfEra := (dayOfEra - dayOfEra / 1460 + dayOfEra / 36524 - dayOfEra / 146096) / 365
  let dayOfYear := dayOfEra - (365 * yearOfEra + yearOfEra / 4 - yearOfEra / 100)
  let monthFromMarch := (5 * dayOfYear + 2) / 153
  let day := dayOfYear - (153 * monthFromMarch + 2) / 5 + 1
  let month := if monthFromMarch < 10 then monthFromMarch + 3 else monthFromMarch - 9
  let year := yearOfEra + era * 400 + (if month ≤ 2 then 1 else 0)
  ⟨year, month.toNat, day.toNat⟩

/-- Days since the last Sunday, zero on a Sunday. -/
def fromSunday (d : Date) : Nat := ((d.toDays + 4) % 7).toNat

/-- Days since the last Monday, zero on a Monday. -/
def fromMonday (d : Date) : Nat := ((d.toDays + 3) % 7).toNat

/-- The day of the year, counted from one. -/
def ordinal (d : Date) : Nat := (d.toDays - (Date.mk d.year 1 1).toDays + 1).toNat

/-- Full weeks of the year so far, where a week begins the given number of days before this one. -/
def weekFrom (d : Date) (sinceStart : Nat) : Nat := (d.ordinal + 6 - sinceStart) / 7

/-- The Thursday of the week, which tells the year of the week. -/
def thursday (d : Date) : Date := ofDays (d.toDays - d.fromMonday + 3)

def isoYear (d : Date) : Int := d.thursday.year

def isoWeek (d : Date) : Nat := (d.thursday.ordinal + 6) / 7

end Date

/-- Digits of a number, at least one and at most `most`. -/
def takeNumber? (most : Nat) (cs : List Char) : Option (Nat × List Char) :=
  let digits := (cs.take most).takeWhile Char.isDigit
  if digits.isEmpty then none else some (Number.natOfDigits digits, cs.drop digits.length)

/-- A year: four digits at most, or any number of them after a sign. -/
def takeYear? (cs : List Char) : Option (Int × List Char) :=
  match Text.trimStart cs with
  | '-' :: rest => (takeNumber? rest.length rest).map fun (n, rest) => (-(n : Int), rest)
  | '+' :: rest => (takeNumber? rest.length rest).map fun (n, rest) => ((n : Int), rest)
  | rest => (takeNumber? 4 rest).map fun (n, rest) => ((n : Int), rest)

def takeDash? : List Char → Option (List Char)
  | '-' :: rest => some rest
  | _ => none

/-- A date written year, month, day with dashes between; blanks may precede each number. -/
def Date.ofText? (s : String) : Option Date := do
  let (year, rest) ← takeYear? s.toList
  let rest ← takeDash? rest
  let (month, rest) ← takeNumber? 2 (Text.trimStart rest)
  let rest ← takeDash? rest
  let (day, rest) ← takeNumber? 2 (Text.trimStart rest)
  let date : Date := ⟨year, month, day⟩
  if rest.isEmpty && date.isValid then some date else none

example : Date.ofDays 20526 = ⟨2026, 3, 14⟩ ∧ (Date.mk 2026 3 14).toDays = 20526 := by decide
example : (Date.mk 2021 1 1).isoYear = 2020 ∧ (Date.mk 2021 1 1).isoWeek = 53 := by decide

end PromptForm.Calendar
