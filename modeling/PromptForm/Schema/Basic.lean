import PromptForm.Schema.Violation
import PromptForm.Pattern.Reader

/-!
# Schemas

A schema says which values fit. Every rule speaks about one kind of value and lets the others pass, so a
rule on types usually stands beside it. The violations of a value come in the order of the rules, those
of an object's fields in the order of the fields.
-/

namespace PromptForm

inductive Schema where
  | anything
  | nothing
  /-- All of these rules. -/
  | all (rules : List Schema)
  /-- An object: schemas for its known fields; an unknown field is allowed unless `closed`. -/
  | fields (known : List (String × Schema)) (closed : Bool)
  /-- An object: schemas for its known fields and one for each of the others. -/
  | fieldsElse (known : List (String × Schema)) (others : Schema)
  /-- An object has these fields. -/
  | required (names : List String)
  | ofType (types : List TypeName)
  | oneValue (options : List Value)
  /-- Entries of a list. -/
  | items (each : Schema)
  | minItems (least : Nat)
  | minLength (least : Nat)
  | minimum (least : Number)
  | pattern (source : String) (p : Pattern)
  | exactlyOne (alternatives : List Schema)

namespace Schema

def hasType : Value → TypeName → Bool
  | .null, .null => true
  | .bool _, .boolean => true
  | .number n, .integer => n.isWhole
  | .number _, .number => true
  | .string _, .string => true
  | .list _, .array => true
  | .object _, .object => true
  | _, _ => false

mutual
/-- What is wrong with a value. -/
def violations : Schema → Value → List Violation
  | .anything, _ => []
  | .nothing, v => [.neverAllowed v]
  | .all rules, v => violationsOfAll rules v
  | .fields known closed, v =>
    match v with
    | .object fs =>
      let extra := (fs.map (·.1)).filter fun k => !known.any (·.1 == k)
      violationsOfKnown known fs ++ (if closed && !extra.isEmpty then [.unexpected extra] else [])
    | _ => []
  | .fieldsElse known others, v =>
    match v with
    | .object fs =>
      let extra := fs.filter fun f => !known.any (·.1 == f.1)
      violationsOfKnown known fs ++ extra.flatMap fun f => violations others f.2
    | _ => []
  | .required names, v =>
    match v with
    | .object fs => (names.filter fun n => !Fields.has n fs).map .missing
    | _ => []
  | .ofType types, v => if types.any (hasType v) then [] else [.wrongType v types]
  | .oneValue options, v => if options.any (·.equivalent v) then [] else [.noOption v options]
  | .items each, v =>
    match v with
    | .list vs => vs.flatMap fun v => violations each v
    | _ => []
  | .minItems least, v =>
    match v with
    | .list vs => if vs.length < least then [.tooFewItems v least] else []
    | _ => []
  | .minLength least, v =>
    match v with
    | .string s => if s.toList.length < least then [.tooShort v least] else []
    | _ => []
  | .minimum least, v =>
    match v with
    | .number n => if n.order? least == some .lt then [.tooSmall v least] else []
    | _ => []
  | .pattern source p, v =>
    match v with
    | .string s => if p.matchesIn s.toList then [] else [.noMatch v source]
    | _ => []
  | .exactlyOne alternatives, v =>
    match fitting alternatives v with
    | 1 => []
    | 0 => [.noAlternative v]
    | _ => [.severalAlternatives v]
termination_by structural s => s

def violationsOfAll : List Schema → Value → List Violation
  | [], _ => []
  | s :: ss, v => violations s v ++ violationsOfAll ss v
termination_by structural ss => ss

/-- Violations of the known fields that are there. -/
def violationsOfKnown : List (String × Schema) → Fields → List Violation
  | [], _ => []
  | (k, s) :: rest, fs =>
    (match Fields.get? k fs with
      | some v => violations s v
      | none => []) ++ violationsOfKnown rest fs
termination_by structural ks => ks

/-- How many of the schemas a value fits. -/
def fitting : List Schema → Value → Nat
  | [], _ => 0
  | s :: ss, v => (if (violations s v).isEmpty then 1 else 0) + fitting ss v
termination_by structural ss => ss
end

/-- A value fits if nothing is wrong with it. -/
def accepts (s : Schema) (v : Value) : Bool := (s.violations v).isEmpty

/-! ### Common schemas -/

def string : Schema := .ofType [.string]

def boolean : Schema := .ofType [.boolean]

/-- An object of these fields and no others. -/
def closedObject (known : List (String × Schema)) (required : List String) : Schema :=
  let typed : Schema := .ofType [.object]
  if known.isEmpty then .all [.fieldsElse [] .nothing, typed]
  else if required.isEmpty then .all [.fields known true, typed]
  else .all [.fields known true, .required required, typed]

/-- An integer not below a bound. -/
def integerFrom (least : Int) : Schema := .all [.minimum (.int least), .ofType [.integer]]

end Schema
end PromptForm
