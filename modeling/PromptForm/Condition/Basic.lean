import PromptForm.Value.Reading
import PromptForm.Number.Reading
import PromptForm.Scope

/-!
# Conditions

A condition decides whether a branch of a prompt is open. It is a literal, a name, or built from others
by negation, conjunction, disjunction, a test for blanks or a comparison. Evaluation never fails: a name
without a value takes the neutral value of whatever it is compared with.
-/

namespace PromptForm

/-- The six comparisons. -/
inductive Comparison where
  | eq | ne | lt | le | gt | ge
deriving DecidableEq, Repr

/-- The shape of a condition. -/
inductive Formula where
  | literal (value : Value)
  | name (path : String)
  | negation (inner : Formula)
  | conjunction (items : List Formula)
  | disjunction (items : List Formula)
  | blank (inner : Formula)
  | compare (op : Comparison) (left right : Formula)

/-- A condition with the text it was read from. -/
structure Condition where
  source : String
  formula : Formula

namespace Comparison

/-- The float of a value in a comparison with a number: null and blank text are zero, booleans one and
    zero, other text what it reads as. -/
def number? : Value → Option Float
  | .null => some 0
  | .number n => some n.toFloat
  | .bool b => some (if b then 1 else 0)
  | .string s => if Text.allBlank s then some 0 else Number.float? (Text.trimmed s)
  | .list _ | .object _ => none

/-- The truth of a value in a comparison with a boolean: of texts only `true`, `yes` and `1` are true. -/
def truth : Value → Bool
  | .string s => ["true", "yes", "1"].contains (Text.asciiLower (Text.trimmed s))
  | v => v.truthy

/-- The text of a value in a comparison with a text. -/
def textOf : Value → String
  | .null => ""
  | .string s => s
  | v => v.text

def isNumber : Value → Bool
  | .number _ => true
  | _ => false

def isBool : Value → Bool
  | .bool _ => true
  | _ => false

def isString : Value → Bool
  | .string _ => true
  | _ => false

/-- The order of two floats; not-a-number has none. -/
def floatOrder? (a b : Float) : Option Ordering :=
  if a < b then some .lt else if b < a then some .gt else if a == b then some .eq else none

/-- The order of two values. The kind of either operand decides how both are read: numbers before
    booleans before texts; what is left is ordered only when equal. -/
def order? (left right : Value) : Option Ordering :=
  if isNumber left || isNumber right then
    match number? left, number? right with
    | some a, some b => floatOrder? a b
    | _, _ => none
  else if isBool left || isBool right then some (Ord.compare (truth left) (truth right))
  else if isString left || isString right || (left.isNull && right.isNull) then
    some (Ord.compare (textOf left) (textOf right))
  else if left.same right then some .eq
  else none

/-- Whether a comparison holds for an order; without an order only inequality does. -/
def admits (op : Comparison) (order : Option Ordering) : Bool :=
  match op, order with
  | .ne, none => true
  | _, none => false
  | .eq, some o => o == .eq
  | .ne, some o => o != .eq
  | .lt, some o => o == .lt
  | .le, some o => o != .gt
  | .gt, some o => o == .gt
  | .ge, some o => o != .lt

def holds (op : Comparison) (left right : Value) : Bool := op.admits (order? left right)

end Comparison

namespace Formula

mutual
/-- The value of a formula in a scope. -/
def value (scope : Scope) : Formula → Value
  | .literal v => v
  | .name path => scope.get path
  | .negation inner => .bool !(value scope inner).truthy
  | .conjunction items => .bool (allTrue scope items)
  | .disjunction items => .bool (anyTrue scope items)
  | .blank inner => .bool (value scope inner).isBlank
  | .compare op left right => .bool (op.holds (value scope left) (value scope right))
termination_by structural f => f
def allTrue (scope : Scope) : List Formula → Bool
  | [] => true
  | f :: fs => (value scope f).truthy && allTrue scope fs
termination_by structural fs => fs
def anyTrue (scope : Scope) : List Formula → Bool
  | [] => false
  | f :: fs => (value scope f).truthy || anyTrue scope fs
termination_by structural fs => fs
end

mutual
/-- Every occurrence of a name, from left to right. -/
def names : Formula → List String
  | .literal _ => []
  | .name path => [path]
  | .negation inner => names inner
  | .conjunction items => namesOf items
  | .disjunction items => namesOf items
  | .blank inner => names inner
  | .compare _ left right => names left ++ names right
termination_by structural f => f
def namesOf : List Formula → List String
  | [] => []
  | f :: fs => names f ++ namesOf fs
termination_by structural fs => fs
end

end Formula

namespace Condition

/-- Keeps the first of equal names. -/
def firstUses : List String → List String
  | [] => []
  | n :: ns => n :: (firstUses ns).filter (· != n)

/-- The names a condition reads, each once, in the order of first use. -/
def references (c : Condition) : List String := firstUses c.formula.names

/-- Whether the condition holds in a scope. -/
def holds (c : Condition) (scope : Scope) : Bool := (c.formula.value scope).truthy

end Condition
end PromptForm
