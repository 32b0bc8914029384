import PromptForm.Template.Basic
import PromptForm.Malformed
import PromptForm.Text.Blank

/-!
# Operators of templates

Arithmetic is exact on integers up to 128 bits and in floats as soon as one side is a float; booleans count
as numbers. What the sides do not allow is an invalid operation.
-/

namespace PromptForm.Template

/-- The outcome of evaluating a part of a template. -/
abbrev Outcome := Except TemplateFault

namespace Operator

def refused {α : Type} : Outcome α := .error .invalidOperation

/-- An integer, if it is within 128 bits. -/
def whole (n : Int) : Outcome Datum :=
  if -(Number.twoTo 127 : Int) ≤ n ∧ n < Number.twoTo 127 then .ok (Datum.int n) else refused

def float (x : Float) : Outcome Datum := .ok (.number (.float x))

/-- An operation on two numbers, in integers if both are. -/
def arithmetic (onInts : Int → Int → Outcome Datum) (onFloats : Float → Float → Float) (a b : Datum) :
    Outcome Datum :=
  match a.toNumber?, b.toNumber? with
  | some (.int m), some (.int n) => onInts m n
  | some x, some y => float (onFloats x.toFloat y.toFloat)
  | _, _ => refused

/-- The remainder of a division of floats toward zero; it has the sign of the dividend. -/
def floatRemainder (x y : Float) : Float :=
  match Number.binary? (.float x), Number.binary? (.float y) with
  | some (m, e), some (n, f) =>
    if n = 0 then 0.0 / 0.0
    else
      let low := min e f
      let r := (m.natAbs * Number.twoTo (e - low).toNat) % (n.natAbs * Number.twoTo (f - low).toNat)
      let size := Float.scaleB (Float.ofNat r) low
      if m < 0 then -size else size
  | some _, none => if y.isNaN then y else x
  | none, _ => 0.0 / 0.0

/-- The quotient that leaves a remainder that is not negative. -/
def floatQuotient (x y : Float) : Float :=
  let q := (x / y)
  let q := if q < 0 then q.ceil else q.floor
  if floatRemainder x y < 0 then (if y > 0 then q - 1 else q + 1) else q

def wholePower (base exponent : Int) : Outcome Datum :=
  if exponent < 0 ∨ Number.twoTo 32 ≤ exponent then refused
  else if base.natAbs ≤ 1 then
    whole (if base = -1 then (if exponent % 2 = 0 then 1 else -1) else if exponent = 0 then 1 else base)
  else if 127 < exponent then refused
  else whole (Int.pow base exponent.toNat)

/-- A count of repetitions. -/
def count (d : Datum) : Outcome Nat :=
  match d.toInt? with
  | some n => if 0 ≤ n then .ok n.toNat else refused
  | none => refused

def times (a b : Datum) : Outcome Datum :=
  match a, b with
  | .string s, n => (count n).map fun k => .string (String.join (List.replicate k s))
  | n, .string s => (count n).map fun k => .string (String.join (List.replicate k s))
  | .list items, n => (count n).map fun k => .list (List.replicate k items).flatten
  | n, .list items => (count n).map fun k => .list (List.replicate k items).flatten
  | _, _ => arithmetic (fun m n => whole (m * n)) (· * ·) a b

def plus (a b : Datum) : Outcome Datum :=
  match a, b with
  | .string s, .string t => .ok (.string (s ++ t))
  | .list as, .list bs => .ok (.list (as ++ bs))
  | _, _ => arithmetic (fun m n => whole (m + n)) (· + ·) a b

/-- Whether the first occurs in the second: as a text, an item or a key. -/
def occurs (d container : Datum) : Outcome Bool :=
  match container with
  | .undefined => .ok false
  | .string s => .ok (Text.contains s.toList d.text.toList)
  | .list items => .ok (items.any fun item => Datum.equal item d)
  | .map entries => .ok (Datum.entry? d entries).isSome
  | .loop _ _ => .ok false
  | .null | .bool _ | .number _ => refused

def apply (op : Operator) (a b : Datum) : Outcome Datum :=
  match op with
  | .add => plus a b
  | .subtract => arithmetic (fun m n => whole (m - n)) (· - ·) a b
  | .multiply => times a b
  | .divide =>
    match a.toNumber?, b.toNumber? with
    | some x, some y => float (x.toFloat / y.toFloat)
    | _, _ => refused
  | .divideWhole =>
    arithmetic (fun m n => if n = 0 then refused else whole (m / n)) floatQuotient a b
  | .remainder =>
    arithmetic (fun m n => if n = 0 then refused else whole (m % n)) floatRemainder a b
  | .power => arithmetic wholePower Float.pow a b
  | .join => .ok (.string (a.text ++ b.text))
  | .equal => .ok (.bool (Datum.equal a b))
  | .different => .ok (.bool !(Datum.equal a b))
  | .less => .ok (.bool (Datum.order a b == .lt))
  | .lessOrEqual => .ok (.bool (Datum.order a b != .gt))
  | .greater => .ok (.bool (Datum.order a b == .gt))
  | .greaterOrEqual => .ok (.bool (Datum.order a b != .lt))
  | .within => (occurs a b).map .bool

/-- The number with the other sign. -/
def negate (d : Datum) : Outcome Datum :=
  match d with
  | .number (.int n) => whole (-n)
  | .number (.float x) => float (-x)
  | _ => refused

end Operator

/-! ### Slices -/

namespace Slice

/-- A bound within a sequence: negative bounds count from the end, and none lies outside. -/
def bound (size : Nat) (low high : Int) (n : Int) : Int :=
  let n := if n < 0 then n + size else n
  if n < low then low else if high < n then high else n

/-- The positions from `first` on in steps, `fuel` at most, before `last`. -/
def positions (last step : Int) : Nat → Int → List Nat
  | 0, _ => []
  | fuel + 1, i =>
    if (0 < step ∧ i < last) ∨ (step < 0 ∧ last < i) then i.toNat :: positions last step fuel (i + step)
    else []

/-- The part of a sequence that a slice takes. -/
def take {α : Type} (items : List α) (first last : Option Int) (step : Int) : List α :=
  let size := items.length
  let chosen := positions
    (if 0 < step then (last.map (bound size 0 size)).getD size
      else (last.map (bound size (-1) (size - 1))).getD (-1))
    step size
    (if 0 < step then (first.map (bound size 0 size)).getD 0
      else (first.map (bound size (-1) (size - 1))).getD (size - 1))
  chosen.filterMap (items[·]?)

/-- A bound as written: a whole number, or null for none. -/
def written (d : Datum) : Outcome (Option Int) :=
  match d with
  | .null => .ok none
  | _ =>
    match d.toInt? with
    | some n => .ok (some n)
    | none => .error .invalidOperation

def apply (d first last step : Datum) : Outcome Datum := do
  let first ← written first
  let last ← written last
  let step := (← written step).getD 1
  if step = 0 then .error .invalidOperation
  else
    match d with
    | .string s => .ok (.string (String.ofList (take s.toList first last step)))
    | .list items => .ok (.list (take items first last step))
    | .undefined | .null => .ok (.list [])
    | _ => .error .invalidOperation

end Slice
end PromptForm.Template
