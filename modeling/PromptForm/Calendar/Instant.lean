import PromptForm.Calendar.Date

/-!
# Instants

A moment in universal time: seconds since 1970 and nanoseconds within the second. A leap second is the
last second of its minute with a thousand million nanoseconds more.
-/

namespace PromptForm.Calendar

structure Instant where
  seconds : Int
  nanos : Nat
deriving DecidableEq, Repr

/-- A number with at least so many digits, zeros in front. -/
def padded (width : Nat) (n : Nat) : String :=
  let digits := Nat.toDigits 10 n
  String.ofList (List.replicate (width - digits.length) '0' ++ digits)

/-- A year: four digits, and a sign outside the years 0 to 9999. -/
def yearText (y : Int) : String :=
  if 0 ≤ y ∧ y ≤ 9999 then padded 4 y.toNat
  else (if y < 0 then "-" else "+") ++ padded 4 y.natAbs

namespace Instant

def date (t : Instant) : Date := Date.ofDays (t.seconds.fdiv 86400)

def secondOfDay (t : Instant) : Nat := (t.seconds.fmod 86400).toNat

def hour (t : Instant) : Nat := t.secondOfDay / 3600

def minute (t : Instant) : Nat := t.secondOfDay / 60 % 60

/-- The second as a clock shows it, 60 in a leap second. -/
def second (t : Instant) : Nat := t.secondOfDay % 60 + t.nanos / 1000000000

/-- The nanoseconds of the shown second. -/
def fraction (t : Instant) : Nat := t.nanos % 1000000000

def millis (t : Instant) : Int := t.seconds * 1000 + t.nanos / 1000000

/-- The fraction after a point in thousandths, millionths or more, whichever is exact; nothing for zero. -/
def fractionText (t : Instant) : String :=
  let n := t.fraction
  if n == 0 then ""
  else if n % 1000000 == 0 then "." ++ padded 3 (n / 1000000)
  else if n % 1000 == 0 then "." ++ padded 6 (n / 1000)
  else "." ++ padded 9 n

/-- The text of RFC 3339. -/
def text (t : Instant) : String :=
  let d := t.date
  yearText d.year ++ "-" ++ padded 2 d.month ++ "-" ++ padded 2 d.day ++ "T" ++ padded 2 t.hour ++ ":" ++
    padded 2 t.minute ++ ":" ++ padded 2 t.second ++ t.fractionText ++ "+00:00"

/-- Exactly so many digits. -/
def takeDigits? (count : Nat) (cs : List Char) : Option (Nat × List Char) :=
  let digits := cs.take count
  if digits.length == count && digits.all Char.isDigit then
    some (Number.natOfDigits digits, cs.drop count)
  else none

def takeChar? (ok : Char → Bool) : List Char → Option (List Char)
  | c :: cs => if ok c then some cs else none
  | [] => none

/-- The nanoseconds after a point; digits past the ninth are dropped. -/
def takeFraction? : List Char → Option (Nat × List Char)
  | '.' :: cs =>
    let digits := cs.takeWhile Char.isDigit
    if digits.isEmpty then none
    else
      let kept := digits.take 9
      some (Number.natOfDigits (kept ++ List.replicate (9 - kept.length) '0'), cs.dropWhile Char.isDigit)
  | cs => some (0, cs)

/-- An offset from universal time in seconds, to the end of the text. -/
def offset? : List Char → Option Int
  | [c] => if c = 'Z' ∨ c = 'z' then some 0 else none
  | sign :: cs => do
    if sign ≠ '+' ∧ sign ≠ '-' then none
    else
      let (h, cs) ← takeDigits? 2 cs
      let cs ← takeChar? (· == ':') cs
      let (m, cs) ← takeDigits? 2 cs
      if cs.isEmpty && h < 24 && m < 60 then
        let n : Int := h * 3600 + m * 60
        some (if sign = '-' then -n else n)
      else none
  | [] => none

/-- The instant that a text of RFC 3339 names. -/
def ofText? (s : String) : Option Instant := do
  let (year, cs) ← takeDigits? 4 s.toList
  let cs ← takeChar? (· == '-') cs
  let (month, cs) ← takeDigits? 2 cs
  let cs ← takeChar? (· == '-') cs
  let (day, cs) ← takeDigits? 2 cs
  let cs ← takeChar? (fun c => c == 'T' || c == 't' || c == ' ') cs
  let (h, cs) ← takeDigits? 2 cs
  let cs ← takeChar? (· == ':') cs
  let (m, cs) ← takeDigits? 2 cs
  let cs ← takeChar? (· == ':') cs
  let (s, cs) ← takeDigits? 2 cs
  let (nanos, cs) ← takeFraction? cs
  let offset ← offset? cs
  let date : Date := ⟨year, month, day⟩
  if date.isValid && h < 24 && m < 60 && s ≤ 60 then
    let clock : Int := h * 3600 + m * 60 + (if s == 60 then 59 else s)
    some ⟨date.toDays * 86400 + clock - offset, if s == 60 then nanos + 1000000000 else nanos⟩
  else none

end Instant
end PromptForm.Calendar
