import PromptForm.Requirement.Answer
import PromptForm.Value.Reading
import PromptForm.Pattern.Reader
import PromptForm.Calendar.Date

/-!
# Requirements

An input that a prompt asks for: its kind, whether it must be answered, what stands in for an answer, and
what an answer must satisfy. An answer is first brought to the kind's type; a blank one counts as none.
-/

namespace PromptForm

inductive InputKind where
  | text | editor | secret | number | select | multiSelect | confirm | date | file | path | rating
deriving DecidableEq, Repr

namespace InputKind

def all : List InputKind :=
  [.text, .editor, .secret, .number, .select, .multiSelect, .confirm, .date, .file, .path, .rating]

def name : InputKind → String
  | .text => "text"
  | .editor => "editor"
  | .secret => "secret"
  | .number => "number"
  | .select => "select"
  | .multiSelect => "multiselect"
  | .confirm => "confirm"
  | .date => "date"
  | .file => "file"
  | .path => "path"
  | .rating => "rating"

def ofName? (s : String) : Option InputKind := all.find? (·.name == s)

/-- What stands for an answer when there is neither an answer nor a default. -/
def emptyValue : InputKind → Value
  | .number | .rating => Value.int 0
  | .confirm => .bool false
  | .multiSelect => .list []
  | _ => .string ""

end InputKind

/-- What an answer must satisfy. -/
inductive Validator where
  /-- The pattern matches the whole answer. -/
  | pattern (source : String)
  | range (min max : Option Float)
  /-- Bounds on the count of characters. -/
  | length (min max : Option Nat)
  | oneOf (options : List String)
  /-- Only these options, and bounds on how many are picked. -/
  | subsetOf (options : List String) (min max : Option Nat)
deriving DecidableEq

/-- The first bound that a count misses. -/
def boundFault? (n : Nat) (min max : Option Nat) (low high : Nat → AnswerFault) : Option AnswerFault :=
  match min.filter (n < ·) with
  | some least => some (low least)
  | none => (max.filter (· < n)).map high

namespace Validator

/-- The pattern that matches where another matches a whole text. -/
def wholePattern? (source : String) : Option Pattern := Pattern.ofText? ("^(?:" ++ source ++ ")$")

def fault? (v : Validator) (answer : Value) : Option AnswerFault :=
  match v with
  | .pattern source =>
    match wholePattern? source with
    | some p =>
      if p.matchesIn (answer.toString?.getD "").toList then none else some (.noMatch source)
    | none => some .invalidPattern
  | .range min max =>
    let n := answer.toFloat?.getD 0
    match min.filter (n < ·) with
    | some least => some (.below least)
    | none => (max.filter (n > ·)).map .above
  | .length min max =>
    boundFault? ((answer.toString?.map (·.toList.length)).getD 0) min max .shorter .longer
  | .oneOf options =>
    if options.contains (answer.toString?.getD "") then none else some (.notOption options)
  | .subsetOf options min max =>
    let picked := (answer.toList?.getD []).filterMap Value.toString?
    match picked.find? fun p => !options.contains p with
    | some bad => some (.notAmong bad options)
    | none => boundFault? picked.length min max .tooFew .tooMany

end Validator

structure Requirement where
  name : String
  kind : InputKind
  label : String
  description : Option String := none
  required : Bool := true
  default : Option Value := none
  validators : List Validator := []
deriving DecidableEq

namespace Requirement

/-- The default, else the kind's empty value. -/
def fallback (r : Requirement) : Value := r.default.getD r.kind.emptyValue

/-- The number that a text answers; blanks alone answer nothing. -/
def numberAnswer (s : String) : Except AnswerFault Value :=
  let text := Text.trimmed s
  if text.isEmpty then .ok .null
  else
    match Number.int? (-Number.twoTo 63) (Number.twoTo 63 - 1) text with
    | some n => .ok (Value.int n)
    | none =>
      match Number.float? text with
      | some x => if x.isFinite then .ok (.float x) else .error .notNumber
      | none => .error .notNumber

/-- The decision that a text answers; blanks alone answer nothing. -/
def confirmAnswer (s : String) : Except AnswerFault Value :=
  let word := Text.asciiLower (Text.trimmed s)
  if word.isEmpty then .ok .null
  else if ["y", "yes", "true", "1"].contains word then .ok (.bool true)
  else if ["n", "no", "false", "0"].contains word then .ok (.bool false)
  else .error .notYesNo

/-- An answer as a value of a kind. -/
def coerce (kind : InputKind) (answer : Value) : Except AnswerFault Value :=
  match answer with
  | .null => .ok .null
  | _ =>
    match kind with
    | .number | .rating =>
      match answer with
      | .number n => .ok (.number n)
      | .string s => numberAnswer s
      | _ => .error .notNumber
    | .confirm =>
      match answer with
      | .bool b => .ok (.bool b)
      | .string s => confirmAnswer s
      | _ => .error .notYesNo
    | .multiSelect =>
      match answer with
      | .list vs => .ok (.list vs)
      | .string s => .ok (.list (Value.ofCommaList s))
      | _ => .error .notOptions
    | _ =>
      match answer with
      | .string s => .ok (.string s)
      | .number n => .ok (.string n.text)
      | .bool b => .ok (.string (Value.bool b).text)
      | _ => .error .notText

/-- What is wrong with an answer of the kind's type that is not blank. -/
def faults (r : Requirement) (value : Value) : List AnswerFault :=
  r.validators.filterMap (·.fault? value) ++
    (if r.kind = .date ∧ (Calendar.Date.ofText? (value.toString?.getD "")).isNone then [.notDate] else [])

/-- The value to store for an answer, or all reasons against it. -/
def validate (r : Requirement) (answer : Value) : Except (List Rejection) Value :=
  match coerce r.kind answer with
  | .error fault => .error [⟨r.name, fault⟩]
  | .ok value =>
    if value.isBlank then
      match r.default with
      | some d => .ok d
      | none => if r.required then .error [⟨r.name, .blank⟩] else .ok r.kind.emptyValue
    else
      match r.faults value with
      | [] => .ok value
      | faults => .error (faults.map (⟨r.name, ·⟩))

end Requirement
end PromptForm
