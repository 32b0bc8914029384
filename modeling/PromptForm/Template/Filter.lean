import PromptForm.Template.Operator
import PromptForm.Text.Case

/-!
# Filters, tests and functions of templates

What a filter makes of data and its arguments, what a test says of data, and the one function. Each takes
a fixed number of arguments; fewer and more are faults of their own.
-/

namespace PromptForm.Template

/-- Punctuation of ASCII. -/
def isPunctuation (c : Char) : Bool :=
  let n := c.toNat
  (33 ≤ n && n ≤ 47) || (58 ≤ n && n ≤ 64) || (91 ≤ n && n ≤ 96) || (123 ≤ n && n ≤ 126)

/-- Capitals at the beginning of words, which end at blanks and punctuation, and small letters else. -/
def titled (atStart : Bool) : List Char → List Char
  | [] => []
  | c :: cs =>
    if isPunctuation c || Text.isBlank c then c :: titled true cs
    else (if atStart then Text.capital c else Text.small c) ++ titled false cs

def capitalized : List Char → String
  | [] => ""
  | c :: cs => String.ofList (Text.capital c) ++ Text.lower (String.ofList cs)

/-- Every occurrence of a pattern replaced, from the left. An empty pattern stands between all characters
    and at the ends. -/
def replaced (pattern replacement : List Char) : Nat → List Char → List Char
  | 0, cs => cs
  | fuel + 1, cs =>
    match Text.afterPrefix? pattern cs with
    | some rest =>
      if pattern.isEmpty then
        match cs with
        | [] => replacement
        | c :: cs => replacement ++ c :: replaced pattern replacement fuel cs
      else replacement ++ replaced pattern replacement fuel rest
    | none =>
      match cs with
      | [] => []
      | c :: cs => c :: replaced pattern replacement fuel cs

/-- The texts of data with a text between them; nothing stands before the first text that is not empty. -/
def joined (between : String) (data : List Datum) : String :=
  data.foldl (fun text d => (if text.isEmpty then text else text ++ between) ++ d.text) ""

/-- A stable sort. -/
def sorted (precedes : Datum → Datum → Bool) (data : List Datum) : List Datum :=
  data.mergeSort precedes

/-- The order of a sort: texts without regard to the case of ASCII letters unless it counts. -/
def sortOrder (caseCounts : Bool) (a b : Datum) : Ordering :=
  match a, b with
  | .string s, .string t =>
    if caseCounts then Ord.compare s t else Ord.compare (Text.asciiLower s) (Text.asciiLower t)
  | _, _ => Datum.order a b

namespace Filter

def refused {α : Type} : Outcome α := .error .invalidOperation

/-- A truth value as an argument; null is none given. -/
def flag (d : Option Datum) : Outcome Bool :=
  match d with
  | none | some .null | some .undefined => .ok false
  | some (.bool b) => .ok b
  | some _ => refused

/-- At most so many arguments. -/
def atMost (n : Nat) (args : List Datum) : Outcome Unit :=
  if args.length ≤ n then .ok () else .error .tooManyArguments

/-- An argument that may be left out; nothing and null count as none. -/
def given? (i : Nat) (args : List Datum) : Option Datum :=
  args[i]?.filter fun d => !(d.isNull || d.isUndefined)

/-- An argument that must be given. -/
def needed (i : Nat) (args : List Datum) : Outcome Datum :=
  match args[i]? with
  | some d => .ok d
  | none => .error .missingArgument

/-- Drops characters of a set from both ends. -/
def stripped (set : List Char) (cs : List Char) : List Char :=
  ((cs.dropWhile set.contains).reverse.dropWhile set.contains).reverse

def sort (d : Datum) (named : List (String × Datum)) : Outcome Datum := do
  let some items := d.members? | refused
  let caseCounts ← flag (Fields.get? "case_sensitive" named)
  let backward ← flag (Fields.get? "reverse" named)
  let key (item : Datum) : Datum :=
    match Fields.get? "attribute" named with
    | some name => (item.part? name).getD .undefined
    | none => item
  let precedes (a b : Datum) : Bool := sortOrder caseCounts (key a) (key b) != .gt
  let inOrder := sorted precedes items
  .ok (.list (if backward then inOrder.reverse else inOrder))

def first (d : Datum) : Outcome Datum :=
  match d with
  | .string _ | .list _ | .map _ => .ok ((d.members?.bind List.head?).getD .undefined)
  | _ => refused

def last (d : Datum) : Outcome Datum :=
  match d with
  | .string _ | .list _ => .ok ((d.members?.bind List.getLast?).getD .undefined)
  | _ => refused

def reverse (d : Datum) : Outcome Datum :=
  match d with
  | .undefined | .null => .ok d
  | .string s => .ok (.string (String.ofList s.toList.reverse))
  | .list items => .ok (.list items.reverse)
  | .map entries => .ok (.list (entries.map (·.1)).reverse)
  | _ => refused

def items (d : Datum) : Outcome Datum :=
  match d with
  | .map entries => .ok (.list (entries.map fun (k, v) => .list [k, v]))
  | _ => refused

def default (d : Datum) (args : List Datum) : Outcome Datum := do
  let other := (given? 0 args).getD (.string "")
  if d.isUndefined then .ok other
  else if (← flag args[1]?) && !d.truthy then .ok other
  else .ok d

def join (d : Datum) (args : List Datum) : Outcome Datum :=
  match d.members? with
  | some data => .ok (.string (joined (((given? 0 args).map Datum.text).getD "") data))
  | none => refused

def trim (d : Datum) (args : List Datum) : Datum :=
  match given? 0 args with
  | none => .string (Text.trimmed d.text)
  | some set => .string (String.ofList (stripped set.text.toList d.text.toList))

/-- What a filter makes of data. -/
def apply (name : String) (d : Datum) (args : List Datum) (named : List (String × Datum)) :
    Outcome Datum := do
  if name = "upper" then
    atMost 0 args
    .ok (.string (Text.upper d.text))
  else if name = "lower" then
    atMost 0 args
    .ok (.string (Text.lower d.text))
  else if name = "title" then
    atMost 0 args
    .ok (.string (String.ofList (titled true d.text.toList)))
  else if name = "capitalize" then
    atMost 0 args
    .ok (.string (capitalized d.text.toList))
  else if name = "trim" then
    atMost 1 args
    .ok (trim d args)
  else if name = "replace" then
    let pattern := (← needed 0 args).text.toList
    let replacement := (← needed 1 args).text.toList
    atMost 2 args
    let cs := d.text.toList
    .ok (.string (String.ofList (replaced pattern replacement (cs.length + 1) cs)))
  else if name = "join" then
    atMost 1 args
    join d args
  else if name = "length" then
    atMost 0 args
    match d.length? with
    | some n => .ok (Datum.int n)
    | none => refused
  else if name = "default" ∨ name = "d" then
    atMost 2 args
    default d args
  else if name = "first" then
    atMost 0 args
    first d
  else if name = "last" then
    atMost 0 args
    last d
  else if name = "sort" then
    atMost 0 args
    sort d named
  else if name = "reverse" then
    atMost 0 args
    reverse d
  else if name = "items" then
    atMost 0 args
    items d
  else .error .unknownFilter

/-- What a test says of data. -/
def test (name : String) (d : Datum) (args : List Datum) : Outcome Bool := do
  let answer : Bool ←
    if name = "defined" then pure !d.isUndefined
    else if name = "undefined" then pure d.isUndefined
    else if name = "none" then pure d.isNull
    else if name = "odd" then pure (d.toInt?.any fun n => n % 2 != 0)
    else if name = "even" then pure (d.toInt?.any fun n => n % 2 == 0)
    else if name = "string" then pure d.isString
    else if name = "number" then pure d.isNumber
    else .error .unknownTest
  atMost 0 args
  pure answer

/-- A bound of a range: a whole number. -/
def bound (d : Datum) : Outcome Int :=
  match d.toInt? with
  | some n => .ok n
  | none => refused

/-- Whole numbers from one bound, below another, in steps. -/
def range (args : List Datum) : Outcome Datum := do
  let a ← bound (← needed 0 args)
  atMost 3 args
  let (low, high) ←
    match given? 1 args with
    | none => pure (0, a)
    | some d => pure (a, ← bound d)
  let step ←
    match given? 2 args with
    | none => pure 1
    | some d => bound d
  if step ≤ 0 ∨ low < 0 ∨ high < 0 then refused
  else
    let size := (high - low + step - 1).toNat / step.toNat
    if 100000 < size then refused
    else .ok (.list ((List.range size).map fun (i : Nat) => Datum.int (low + step * i)))

/-- What a function gives; data cannot be called. -/
def call (meaning : Option Datum) (function : String) (args : List Datum) : Outcome Datum :=
  match meaning with
  | some _ => refused
  | none => if function = "range" then range args else .error .unknownFunction

/-- A call of a method: data have none, but a field of a map hides that. -/
def callMethod (d : Datum) (name : String) : Outcome Datum :=
  match d with
  | .map entries =>
    match Datum.entry? (.string name) entries with
    | some _ => refused
    | none => .error .unknownMethod
  | _ => .error .unknownMethod

end Filter
end PromptForm.Template
