import PromptForm.Calendar.Instant
import PromptForm.Toml.Quoted

/-!
# Scalars of configuration files

What stands without quotes in a TOML file: the two booleans, integers, floats, and dates and times. No
setting takes a date or a time, so all of them are read as one value that is neither text nor number.
-/

namespace PromptForm.Toml

/-- Characters of scalars that stand without quotes. -/
def isScalarChar (c : Char) : Bool :=
  c.isAlphanum || c == '_' || c == '-' || c == '+' || c == '.' || c == ':'

/-- The digits of a number; single underscores may stand between them. -/
def grouped? (isDigit : Char → Bool) : List Char → Option (List Char)
  | [] => none
  | [c] => if isDigit c then some [c] else none
  | c :: '_' :: cs => if isDigit c then (grouped? isDigit cs).map (c :: ·) else none
  | c :: cs => if isDigit c then (grouped? isDigit cs).map (c :: ·) else none

/-- Decimal digits that do not begin with a superfluous zero. -/
def wholeDigits? (cs : List Char) : Option (List Char) :=
  (grouped? Char.isDigit cs).filter fun digits => digits.length == 1 || digits.head? != some '0'

/-- Integers have 64 bits; larger ones, up to 128 bits, read but fit no setting. -/
def integer? (n : Int) : Option Value :=
  if -(Number.twoTo 127 : Int) ≤ n ∧ n < Number.twoTo 128 then some (.int n) else none

/-- A number to a base that is a power of two, after the mark of the base. -/
def based? (base : Nat) (cs : List Char) : Option Value := do
  let isDigit := fun c => (Value.Reader.hexDigit? c).any (· < base)
  let digits ← grouped? isDigit cs
  integer? (digits.foldl (fun n c => n * base + (Value.Reader.hexDigit? c).getD 0) 0 : Nat)

def isDigitOrGroup (c : Char) : Bool := c.isDigit || c == '_'

/-- The digits behind a point, if one stands here. -/
def fractionDigits? : List Char → Option (List Char × List Char)
  | '.' :: cs =>
    (grouped? Char.isDigit (cs.takeWhile isDigitOrGroup)).map fun digits =>
      (digits, cs.dropWhile isDigitOrGroup)
  | cs => some ([], cs)

/-- An exponent to the end of the text; none is zero. -/
def exponentPart? : List Char → Option Int
  | [] => some 0
  | e :: cs =>
    if e = 'e' ∨ e = 'E' then
      let (negative, digits) := Number.takeSign cs
      (grouped? Char.isDigit digits).map fun digits =>
        let n : Int := Number.natOfDigits digits
        if negative then -n else n
    else none

/-- A decimal number after its sign: an integer unless it has a fraction or an exponent. A float beyond
    reach is refused. -/
def decimal? (negative : Bool) (cs : List Char) : Option Value := do
  let whole ← wholeDigits? (cs.takeWhile isDigitOrGroup)
  match cs.dropWhile isDigitOrGroup with
  | [] =>
    let n : Int := Number.natOfDigits whole
    integer? (if negative then -n else n)
  | rest =>
    let (fraction, rest) ← fractionDigits? rest
    let exponent ← exponentPart? rest
    let x := Number.nearest (Number.natOfDigits (whole ++ fraction)) (exponent - fraction.length)
    if x.isInf then none else some (.float (if negative then -x else x))

/-- A number after its sign: a name of what is not finite, or a decimal. -/
def signed? (negative : Bool) (cs : List Char) : Option Value :=
  if cs = ['i', 'n', 'f'] then some (.float (if negative then -(1.0 / 0.0) else 1.0 / 0.0))
  else if cs = ['n', 'a', 'n'] then some (.float (0.0 / 0.0))
  else decimal? negative cs

def number? : List Char → Option Value
  | '0' :: 'x' :: cs => based? 16 cs
  | '0' :: 'o' :: cs => based? 8 cs
  | '0' :: 'b' :: cs => based? 2 cs
  | cs =>
    let (negative, digits) := Number.takeSign cs
    signed? negative digits

/-! ### Dates and times -/

/-- All dates and times: a value with one field that no setting has. -/
def moment : Value := .object [("moment", .null)]

/-- The rest after a date. -/
def dropDate? (cs : List Char) : Option (List Char) := do
  let (year, cs) ← Calendar.Instant.takeDigits? 4 cs
  let cs ← Calendar.Instant.takeChar? (· == '-') cs
  let (month, cs) ← Calendar.Instant.takeDigits? 2 cs
  let cs ← Calendar.Instant.takeChar? (· == '-') cs
  let (day, cs) ← Calendar.Instant.takeDigits? 2 cs
  if (Calendar.Date.mk year month day).isValid then some cs else none

/-- The rest after a time; seconds are optional. -/
def dropTime? (cs : List Char) : Option (List Char) := do
  let (h, cs) ← Calendar.Instant.takeDigits? 2 cs
  let cs ← Calendar.Instant.takeChar? (· == ':') cs
  let (m, cs) ← Calendar.Instant.takeDigits? 2 cs
  if 24 ≤ h ∨ 60 ≤ m then none
  else
    match cs with
    | ':' :: cs =>
      let (s, cs) ← Calendar.Instant.takeDigits? 2 cs
      if 60 < s then none else (Calendar.Instant.takeFraction? cs).map Prod.snd
    | cs => some cs

/-- Whether a text is a date, a time, or both with or without an offset. -/
def isMoment (cs : List Char) : Bool :=
  match dropDate? cs with
  | none => dropTime? cs == some []
  | some [] => true
  | some (mark :: cs) =>
    (mark == 'T' || mark == 't' || mark == ' ') &&
      match dropTime? cs with
      | none => false
      | some rest => rest.isEmpty || (Calendar.Instant.offset? rest).isSome

/-- The value of a text that stands without quotes. -/
def scalar? (cs : List Char) : Option Value :=
  if cs = ['t', 'r', 'u', 'e'] then some (.bool true)
  else if cs = ['f', 'a', 'l', 's', 'e'] then some (.bool false)
  else if isMoment cs then some moment
  else number? cs

/-- Splits off a scalar: a blank between a date and a time belongs to it. -/
def splitScalar (cs : List Char) : List Char × List Char :=
  let word := cs.takeWhile isScalarChar
  match cs.dropWhile isScalarChar with
  | ' ' :: d :: rest =>
    if dropDate? word == some [] && d.isDigit then
      let time := (d :: rest).takeWhile isScalarChar
      (word ++ ' ' :: time, (d :: rest).dropWhile isScalarChar)
    else (word, ' ' :: d :: rest)
  | rest => (word, rest)

example : scalar? "0x1_0".toList = some (.int 16) := by decide +kernel
example : scalar? "1979-05-27 07:32:00Z".toList = some moment := by decide +kernel

end PromptForm.Toml
