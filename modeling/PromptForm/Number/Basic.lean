import PromptForm.Number.Layout

/-!
# Numbers

A number is an integer or a float, and stays what it was written as: `1` and `1.0` are two numbers.
Numbers of both kinds compare as floats.
-/

namespace PromptForm

inductive Number where
  /-- An integer of 64 bits, with or without a sign. -/
  | int (n : Int)
  | float (x : Float)
deriving DecidableEq

namespace Number

/-- The integers that a number holds as such. -/
def inRange (n : Int) : Bool := -(twoTo 63 : Int) ≤ n && n < twoTo 64

def toFloat : Number → Float
  | .int n => Float.ofInt n
  | .float x => x

/-- A count from an integer that is not negative; a float is no count. -/
def toCount? : Number → Option Nat
  | .int n => if 0 ≤ n then some n.toNat else none
  | .float _ => none

/-- Data text of a number. -/
def text : Number → String
  | .int n => toString n
  | .float x => Layout.data.text x

/-- A number as `mantissa · 2 ^ exponent`, unless it is infinite or no number. -/
def binary? : Number → Option (Int × Int)
  | .int n => some (n, 0)
  | .float x =>
    if x.isNaN || x.isInf then none
    else if x == 0 then some (0, 0)
    else
      let b := binaryOf x
      some (if x < 0 then -(b.mantissa : Int) else b.mantissa, b.exponent)

/-- The integer that a number denotes, unless it has a fraction: `1.0` denotes one. -/
def whole? (n : Number) : Option Int :=
  match n.binary? with
  | some (m, e) =>
    let low : Int := twoTo (-e).toNat
    if 0 ≤ e then some (m * twoTo e.toNat) else if m % low = 0 then some (m / low) else none
  | none => none

def isWhole (n : Number) : Bool := n.whole?.isSome

/-- The exact order of two numbers of either kind. -/
def order? (a b : Number) : Option Ordering :=
  match a.binary?, b.binary? with
  | some (m, e), some (n, f) =>
    let low := min e f
    some (Ord.compare (m * twoTo (e - low).toNat) (n * twoTo (f - low).toNat))
  | _, _ => none

/-- Equality of numbers as written: integers with integers, floats with floats. -/
def same : Number → Number → Bool
  | .int a, .int b => a == b
  | .float a, .float b => a == b
  | _, _ => false

end Number
end PromptForm
