import PromptForm.Value.Basic
import PromptForm.Text.Quoted
import PromptForm.Text.Blank

/-!
# Data inside templates

What an expression of a template stands for: a value, nothing at all (`undefined`), or the state of a
loop. Maps may have keys of any kind and hold them in order. All data are ordered: first by kind, then
within the kind, and numbers count by their amount.
-/

namespace PromptForm.Template

inductive Datum where
  /-- A name without a meaning. -/
  | undefined
  | null
  | bool (b : Bool)
  | number (n : Number)
  | string (s : String)
  | list (items : List Datum)
  | map (entries : List (Datum × Datum))
  /-- A loop at one of its rounds. -/
  | loop (index length : Nat)
deriving Inhabited

namespace Datum

def int (n : Int) : Datum := .number (.int n)

mutual
def ofValue : Value → Datum
  | .null => .null
  | .bool b => .bool b
  | .number n => .number n
  | .string s => .string s
  | .list items => .list (ofItems items)
  | .object fields => .map (ofFields fields)
termination_by structural v => v
def ofItems : List Value → List Datum
  | [] => []
  | v :: vs => ofValue v :: ofItems vs
termination_by structural vs => vs
def ofFields : List (String × Value) → List (Datum × Datum)
  | [] => []
  | (k, v) :: fs => (.string k, ofValue v) :: ofFields fs
termination_by structural fs => fs
end

/-- What counts as true: everything but nothing, null, false, zero and what is empty. -/
def truthy : Datum → Bool
  | .undefined | .null => false
  | .bool b => b
  | .number n => n.toFloat != 0
  | .string s => !s.isEmpty
  | .list items => !items.isEmpty
  | .map entries => !entries.isEmpty
  | .loop _ _ => true

def isUndefined : Datum → Bool
  | .undefined => true
  | _ => false

def isNull : Datum → Bool
  | .null => true
  | _ => false

def isString : Datum → Bool
  | .string _ => true
  | _ => false

def isNumber : Datum → Bool
  | .number _ => true
  | _ => false

/-! ### Order -/

/-- The rank of a kind. -/
def rank : Datum → Nat
  | .undefined => 0
  | .null => 1
  | .bool _ => 2
  | .number _ => 3
  | .string _ => 4
  | .list _ => 5
  | .map _ => 6
  | .loop _ _ => 7

/-- The order of two numbers, which floats decide where one of them is no finite number. -/
def orderNumbers (a b : Number) : Ordering :=
  match a.order? b with
  | some o => o
  | none =>
    let x := a.toFloat
    let y := b.toFloat
    if x < y then .lt else if y < x then .gt else .eq

mutual
def order : Datum → Datum → Ordering
  | .bool a, .bool b => Ord.compare a b
  | .number a, .number b => orderNumbers a b
  | .string a, .string b => Ord.compare a b
  | .list as, .list bs => orderItems as bs
  | .map as, .map bs => orderEntries as bs
  | .loop i n, .loop j m => (Ord.compare i j).then (Ord.compare n m)
  | a, b => Ord.compare a.rank b.rank
termination_by structural a => a
def orderItems : List Datum → List Datum → Ordering
  | [], [] => .eq
  | [], _ :: _ => .lt
  | _ :: _, [] => .gt
  | a :: as, b :: bs => (order a b).then (orderItems as bs)
termination_by structural as => as
def orderEntries : List (Datum × Datum) → List (Datum × Datum) → Ordering
  | [], [] => .eq
  | [], _ :: _ => .lt
  | _ :: _, [] => .gt
  | (k, a) :: as, (l, b) :: bs => (order k l).then ((order a b).then (orderEntries as bs))
termination_by structural as => as
end

/-- Data as numbers: booleans count as one and zero. -/
def toNumber? : Datum → Option Number
  | .bool b => some (.int (if b then 1 else 0))
  | .number n => some n
  | _ => none

/-- Equality of two numbers; a number that is none equals nothing. -/
def equalNumbers (a b : Number) : Bool :=
  match a.order? b with
  | some o => o == .eq
  | none => a.toFloat == b.toFloat

mutual
/-- Equality, in which booleans are numbers. -/
def equal : Datum → Datum → Bool
  | .undefined, .undefined => true
  | .null, .null => true
  | .string a, .string b => a == b
  | .list as, .list bs => equalItems as bs
  | .map as, .map bs => equalEntries as bs
  | .loop i n, .loop j m => i == j && n == m
  | a, b =>
    match a.toNumber?, b.toNumber? with
    | some x, some y => equalNumbers x y
    | _, _ => false
termination_by structural a => a
def equalItems : List Datum → List Datum → Bool
  | [], [] => true
  | a :: as, b :: bs => equal a b && equalItems as bs
  | _, _ => false
termination_by structural as => as
def equalEntries : List (Datum × Datum) → List (Datum × Datum) → Bool
  | [], [] => true
  | (k, a) :: as, (l, b) :: bs => equal k l && equal a b && equalEntries as bs
  | _, _ => false
termination_by structural as => as
end

/-- The entry of a map under a key. -/
def entry? (key : Datum) : List (Datum × Datum) → Option Datum
  | [] => none
  | (k, v) :: rest => if order k key == .eq then some v else entry? key rest

/-- Puts an entry in its place among the others. -/
def insertEntry (key value : Datum) : List (Datum × Datum) → List (Datum × Datum)
  | [] => [(key, value)]
  | (k, v) :: rest =>
    match order key k with
    | .eq => (key, value) :: rest
    | .lt => (key, value) :: (k, v) :: rest
    | .gt => (k, v) :: insertEntry key value rest

/-! ### Text -/

mutual
/-- The text of data inside a list or a map. -/
def nested : Datum → String
  | .undefined => "undefined"
  | .null => "None"
  | .bool b => if b then "True" else "False"
  | .number (.int n) => toString n
  | .number (.float x) => Number.Layout.nested.text x
  | .string s => Text.reportQuoted s
  | .list items => "[" ++ nestedItems items ++ "]"
  | .map entries => "\x7b" ++ nestedEntries entries ++ "\x7d"
  | .loop index length => "<loop " ++ toString index ++ "/" ++ toString length ++ ">"
termination_by structural d => d
def nestedItems : List Datum → String
  | [] => ""
  | d :: ds => nested d ++ (if ds.isEmpty then "" else ", ") ++ nestedItems ds
termination_by structural ds => ds
def nestedEntries : List (Datum × Datum) → String
  | [] => ""
  | (k, d) :: es => nested k ++ ": " ++ nested d ++ (if es.isEmpty then "" else ", ") ++ nestedEntries es
termination_by structural es => es
end

/-- The text that data print: strings as they are, nothing for nothing. -/
def text : Datum → String
  | .undefined => ""
  | .string s => s
  | .number (.float x) => Number.Layout.fraction.text x
  | d => nested d

/-! ### Parts -/

/-- A whole number: an integer, a float without a fraction, or a boolean. -/
def toInt? : Datum → Option Int
  | .bool b => some (if b then 1 else 0)
  | .number (.int n) => some n
  | .number (.float x) =>
    match Number.binary? (.float x) with
    | some (m, e) =>
      if 0 ≤ e then some (m * Number.twoTo e.toNat)
      else if m % Number.twoTo (-e).toNat = 0 then some (m / Number.twoTo (-e).toNat)
      else none
    | none => none
  | _ => none

/-- What a loop runs over: items, characters or keys; nothing and null are empty. -/
def members? : Datum → Option (List Datum)
  | .undefined | .null => some []
  | .string s => some (s.toList.map fun c => .string (String.singleton c))
  | .list items => some items
  | .map entries => some (entries.map (·.1))
  | .bool _ | .number _ | .loop _ _ => none

def length? : Datum → Option Nat
  | .string s => some s.length
  | .list items => some items.length
  | .map entries => some entries.length
  | _ => none

/-- What a loop tells about the round it is at. -/
def loopFact? (index length : Nat) (name : String) : Option Datum :=
  if name = "index" then some (int (index + 1))
  else if name = "index0" then some (int index)
  else if name = "revindex" then some (int (length - index))
  else if name = "revindex0" then some (int (length - index - 1))
  else if name = "length" then some (int length)
  else if name = "first" then some (.bool (index == 0))
  else if name = "last" then some (.bool (index + 1 == length))
  else none

/-- The position that an index means, counted from the end if it is negative. -/
def position? (size : Nat) (index : Int) : Option Nat :=
  let i := if index < 0 then index + size else index
  if 0 ≤ i && i < size then some i.toNat else none

/-- The part of data under a name or at an index. -/
def part? (d key : Datum) : Option Datum :=
  match d, key with
  | .map entries, _ => entry? key entries
  | .loop index length, .string name => loopFact? index length name
  | .list items, _ => do items[← position? items.length (← key.toInt?)]?
  | .string s, _ => do
    let c ← s.toList[← position? s.length (← key.toInt?)]?
    some (.string (String.singleton c))
  | _, _ => none

end Datum
end PromptForm.Template
