import PromptForm.Number.Power

/-!
# Reading decimals

Two readings of decimal text. The exact reading takes the float nearest to the decimal. The scaled
reading, used for data text, keeps the leading digits that fit in 64 bits and scales them by one
multiplication or division with a power of ten.
-/

namespace PromptForm.Number

/-- The value of decimal digits. -/
def natOfDigits (cs : List Char) : Nat :=
  cs.foldl (fun n c => 10 * n + (c.toNat - 48)) 0

/-- The float nearest to `digits · 10 ^ exponent`. Beyond the reach of floats on either side the digits
    do not matter. -/
def nearest (digits : Nat) (exponent : Int) : Float :=
  let size : Int := (Nat.toDigits 10 digits).length
  if digits = 0 then 0
  else if 310 < size + exponent then 1.0 / 0.0
  else if size + exponent < -330 then 0
  else if 0 ≤ exponent then Float.ofScientific digits false exponent.toNat
  else Float.ofScientific digits true (-exponent).toNat

/-- An optional sign: whether the number is negative, and the rest. -/
def takeSign : List Char → Bool × List Char
  | '-' :: cs => (true, cs)
  | '+' :: cs => (false, cs)
  | cs => (false, cs)

/-- An exponent part, if one stands here and has digits. -/
def takeExponent? : List Char → Option Int
  | [] => some 0
  | e :: cs =>
    if e = 'e' ∨ e = 'E' then
      let (negative, digits) := takeSign cs
      if digits.isEmpty || !digits.all Char.isDigit then none
      else
        let n : Int := natOfDigits digits
        some (if negative then -n else n)
    else none

/-- A decimal without a sign: digits, a point and an exponent, each optional, but at least one digit. -/
def unsigned? (cs : List Char) : Option Float :=
  let whole := cs.takeWhile Char.isDigit
  let rest := cs.dropWhile Char.isDigit
  let (fraction, rest) :=
    match rest with
    | '.' :: tail => (tail.takeWhile Char.isDigit, tail.dropWhile Char.isDigit)
    | _ => ([], rest)
  if whole.isEmpty && fraction.isEmpty then none
  else (takeExponent? rest).map fun e => nearest (natOfDigits (whole ++ fraction)) (e - fraction.length)

/-- A float from its text: a sign, then a decimal or, in any letter case, `inf`, `infinity` or `nan`. -/
def float? (s : String) : Option Float :=
  let (negative, cs) := takeSign s.toList
  let word := String.ofList (cs.map Char.toLower)
  let x? :=
    if word = "inf" ∨ word = "infinity" then some (1.0 / 0.0 : Float)
    else if word = "nan" then some (0.0 / 0.0)
    else unsigned? cs
  x?.map fun x => if negative then -x else x

/-- An integer from its text: an optional sign and digits, within bounds. -/
def int? (low high : Int) (s : String) : Option Int :=
  let (negative, digits) := takeSign s.toList
  if digits.isEmpty || !digits.all Char.isDigit then none
  else
    let n : Int := natOfDigits digits
    let n := if negative then -n else n
    if low ≤ n && n ≤ high then some n else none

/-- A count from its text: an optional plus sign and digits, below `2 ^ 64`. -/
def count? (s : String) : Option Nat :=
  let digits :=
    match s.toList with
    | '+' :: cs => cs
    | cs => cs
  if digits.isEmpty || !digits.all Char.isDigit then none
  else
    let n := natOfDigits digits
    if n < twoTo 64 then some n else none

/-- A significand of at most 64 bits, scaled. Powers of ten beyond `1e308` divide in steps; a result out
    of reach is refused. -/
def scaled? (significand : Nat) (exponent : Int) : Option Float :=
  let x := Float.ofNat significand
  if exponent.natAbs ≤ 308 then
    let power := nearest 1 exponent.natAbs
    if 0 ≤ exponent then
      let y := x * power
      if y.isInf then none else some y
    else some (x / power)
  else if x == 0 then some x
  else if 0 ≤ exponent then none
  else some (go (exponent.natAbs / 308 + 1) x exponent)
where
  go : Nat → Float → Int → Float
    | 0, x, _ => x
    | fuel + 1, x, e =>
      if x == 0 then x
      else if e.natAbs ≤ 308 then x / nearest 1 e.natAbs
      else go fuel (x / nearest 1 308) (e + 308)

end PromptForm.Number
