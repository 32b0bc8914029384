import PromptForm.Number.Shortest

/-!
# Layouts of floats

How the digits of a shortest decimal are set: which magnitudes are written in positions, whether a whole
number keeps a fraction, and how the exponent of the others looks.
-/

namespace PromptForm.Number

/-- The decisions of one way of writing floats. -/
structure Layout where
  /-- The magnitudes written in positions, from the first to before the second; `none` for all. -/
  positional : Option (Int × Int)
  /-- Whether a whole number ends in `.0`. -/
  wholeFraction : Bool
  /-- Whether an exponent that is not negative has a plus sign. -/
  exponentPlus : Bool
  /-- The names of what is not finite. -/
  notANumber : String
  infinity : String

/-- Data text: positions from `1e-5` to below `1e16`, a sign on every exponent, and no whole number
    without its `.0`. What is not finite has no number form. -/
def Layout.data : Layout := ⟨some (-5, 16), true, true, "null", "null"⟩

/-- Bounds in messages: positions only and no superfluous fraction. -/
def Layout.plain : Layout := ⟨none, false, true, "NaN", "inf"⟩

/-- Template output and configuration files: positions only, whole numbers with `.0`. -/
def Layout.fraction : Layout := ⟨none, true, true, "NaN", "inf"⟩

/-- Floats inside the lists and maps of template output: positions from `1e-4` to below `1e16`. -/
def Layout.nested : Layout := ⟨some (-4, 16), true, false, "NaN", "inf"⟩

/-- The digits with the point behind the first `whole` of them; `whole` may lie outside the digits. -/
def placed (digits : List Char) (whole : Int) (wholeFraction : Bool) : List Char :=
  let size : Int := digits.length
  if whole ≤ 0 then '0' :: '.' :: (List.replicate (-whole).toNat '0' ++ digits)
  else if size ≤ whole then
    digits ++ List.replicate (whole - size).toNat '0' ++ (if wholeFraction then ['.', '0'] else [])
  else digits.take whole.toNat ++ '.' :: digits.drop whole.toNat

/-- One digit, a point before the others if there are any, and the exponent with its sign. -/
def scientific (digits : List Char) (magnitude : Int) (plus : Bool) : List Char :=
  let tail := digits.drop 1
  let sign := if magnitude < 0 then ['-'] else if plus then ['+'] else []
  digits.take 1 ++ (if tail.isEmpty then [] else '.' :: tail) ++ 'e' :: sign ++
    Nat.toDigits 10 magnitude.natAbs

def Layout.decimal (l : Layout) (d : Decimal) : List Char :=
  let digits := Nat.toDigits 10 d.digits
  let magnitude : Int := d.exponent + digits.length - 1
  let inPositions :=
    match l.positional with
    | none => true
    | some (low, high) => low ≤ magnitude && magnitude < high
  if inPositions then placed digits (magnitude + 1) l.wholeFraction
  else scientific digits magnitude l.exponentPlus

/-- The text of a float. -/
def Layout.text (l : Layout) (x : Float) : String :=
  if x.isNaN then l.notANumber
  else
    let negative := x.toBits.toNat / twoTo 63 == 1
    let sign := if negative then "-" else ""
    if x.isInf then (if l.infinity == "null" then "null" else sign ++ l.infinity)
    else if x == 0 then sign ++ (if l.wholeFraction then "0.0" else "0")
    else sign ++ String.ofList (l.decimal (binaryOf x).shortest)

end PromptForm.Number
