import PromptForm.Number.Power

/-!
# Shortest decimals

A finite binary fraction is written with the fewest decimal digits that read back as the same fraction;
of two such decimals the nearer one is taken, and of two equally near ones the even one. Everything is
exact arithmetic on natural numbers.
-/

namespace PromptForm.Number

/-- A positive rational as a quotient. -/
structure Quotient where
  num : Nat
  den : Nat

/-- The quotient that stands for `n · 2 ^ q`. -/
def Quotient.ofBinary (n : Nat) (q : Int) : Quotient :=
  if 0 ≤ q then ⟨n * twoTo q.toNat, 1⟩ else ⟨n, twoTo (-q).toNat⟩

/-- The quotient divided by `10 ^ e`. -/
def Quotient.scaled (x : Quotient) (e : Int) : Quotient :=
  if 0 ≤ e then ⟨x.num, x.den * tenTo e.toNat⟩ else ⟨x.num * tenTo (-e).toNat, x.den⟩

def digitCount (n : Nat) : Nat := (Nat.toDigits 10 n).length

/-- The power of ten at or below a positive quotient: `10 ^ k ≤ x < 10 ^ (k + 1)`. -/
def Quotient.magnitude (x : Quotient) : Int :=
  if x.den ≤ x.num then (digitCount (x.num / x.den) : Int) - 1
  else
    let d : Nat := digitCount (x.den / x.num)
    if x.den ≤ x.num * tenTo (d - 1) then 1 - (d : Int) else -(d : Int)

/-- A decimal `digits · 10 ^ exponent`. -/
structure Decimal where
  digits : Nat
  exponent : Int
deriving Repr, DecidableEq

/-- A positive float `mantissa · 2 ^ exponent` with the neighbours that rounding gives up to it: the
    lower one is half as far away when `narrow`. -/
structure Binary where
  mantissa : Nat
  exponent : Int
  narrow : Bool

/-- Four times the distance to zero of the value and of the two ends of its rounding interval, all in
    units of `2 ^ (exponent - 2)`. -/
def Binary.value (b : Binary) : Quotient := Quotient.ofBinary (4 * b.mantissa) (b.exponent - 2)

def Binary.lower (b : Binary) : Quotient :=
  Quotient.ofBinary (4 * b.mantissa - (if b.narrow then 1 else 2)) (b.exponent - 2)

def Binary.upper (b : Binary) : Quotient := Quotient.ofBinary (4 * b.mantissa + 2) (b.exponent - 2)

/-- The decimal `c · 10 ^ e` reads back as `b`: it lies between the ends, which count when the mantissa
    is even. -/
def Binary.reads (b : Binary) (c : Nat) (e : Int) : Bool :=
  let low := b.lower.scaled e
  let high := b.upper.scaled e
  if b.mantissa % 2 = 0 then low.num ≤ c * low.den && c * high.den ≤ high.num
  else low.num < c * low.den && c * high.den < high.num

/-- The better of the two decimals around `b` on the grid of `10 ^ e`. -/
def Binary.onGrid? (b : Binary) (e : Int) : Option Nat :=
  let x := b.value.scaled e
  let c := x.num / x.den
  match b.reads c e, b.reads (c + 1) e with
  | true, true =>
    let twice := 2 * (x.num - c * x.den)
    if twice < x.den then some c
    else if x.den < twice then some (c + 1)
    else if c % 2 = 0 then some c else some (c + 1)
  | true, false => some c
  | false, true => some (c + 1)
  | false, false => none

/-- Searches the grids from coarse to fine; `more` grids remain. -/
def Binary.search (b : Binary) (e : Int) : Nat → Decimal
  | 0 => ⟨((b.value.scaled e).num / (b.value.scaled e).den), e⟩
  | more + 1 =>
    match b.onGrid? e with
    | some c => ⟨c, e⟩
    | none => search b (e - 1) more

/-- Drops zeros at the end of the digits. -/
def Decimal.stripped (d : Decimal) : Decimal :=
  let rec go : Nat → Decimal → Decimal
    | 0, d => d
    | fuel + 1, d => if d.digits ≠ 0 ∧ d.digits % 10 = 0 then go fuel ⟨d.digits / 10, d.exponent + 1⟩ else d
  go (digitCount d.digits) d

/-- The shortest decimal that reads back as a positive float: seventeen digits always suffice. -/
def Binary.shortest (b : Binary) : Decimal :=
  (b.search b.value.magnitude 17).stripped

/-- The parts of a finite nonzero float, sign apart. -/
def binaryOf (x : Float) : Binary :=
  let bits : Nat := x.toBits.toNat
  let field : Nat := (bits / twoTo 52) % twoTo 11
  let fraction : Nat := bits % twoTo 52
  if field = 0 then ⟨fraction, -1074, false⟩
  else ⟨twoTo 52 + fraction, (field : Int) - 1075, fraction == 0 && field != 1⟩

end PromptForm.Number
