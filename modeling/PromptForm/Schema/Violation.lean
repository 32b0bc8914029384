import PromptForm.Value.Printer

/-!
# Violations of a schema

What a value can lack, and the wording of each lack. Values are cited in compact data text.
-/

namespace PromptForm

/-- The kinds of value that a schema can ask for. -/
inductive TypeName where
  | array | boolean | integer | null | number | object | string
deriving DecidableEq, Repr

def TypeName.name : TypeName → String
  | .array => "array"
  | .boolean => "boolean"
  | .integer => "integer"
  | .null => "null"
  | .number => "number"
  | .object => "object"
  | .string => "string"

def TypeName.all : List TypeName := [.array, .boolean, .integer, .null, .number, .object, .string]

def TypeName.ofName? (s : String) : Option TypeName := TypeName.all.find? (·.name == s)

inductive Violation where
  | missing (name : String)
  | unexpected (names : List String)
  | neverAllowed (v : Value)
  | wrongType (v : Value) (types : List TypeName)
  | noMatch (v : Value) (pattern : String)
  | tooShort (v : Value) (least : Nat)
  | tooFewItems (v : Value) (least : Nat)
  | tooSmall (v : Value) (least : Number)
  | noOption (v : Value) (options : List Value)
  | noAlternative (v : Value)
  | severalAlternatives (v : Value)
deriving DecidableEq

namespace Violation

/-- The candidates of a choice: two or three by name, of more the first two and a count. -/
def candidates : List String → String
  | [] => ""
  | [a] => a
  | [a, b] => a ++ " or " ++ b
  | [a, b, c] => a ++ ", " ++ b ++ " or " ++ c
  | a :: b :: rest => a ++ ", " ++ b ++ " or " ++ toString rest.length ++ " other candidates"

def counted (n : Nat) (one many : String) : String := toString n ++ " " ++ (if n == 1 then one else many)

def message : Violation → String
  | .missing name => Text.jsonQuoted name ++ " is a required property"
  | .unexpected names =>
    "Additional properties are not allowed (" ++ ", ".intercalate (names.map fun n => "'" ++ n ++ "'") ++
      (if names.length == 1 then " was" else " were") ++ " unexpected)"
  | .neverAllowed v => "False schema does not allow " ++ v.text
  | .wrongType v types =>
    v.text ++ (if types.length == 1 then " is not of type " else " is not of types ") ++
      ", ".intercalate (types.map fun t => Text.jsonQuoted t.name)
  | .noMatch v pattern => v.text ++ " does not match " ++ Text.jsonQuoted pattern
  | .tooShort v least => v.text ++ " is shorter than " ++ counted least "character" "characters"
  | .tooFewItems v least => v.text ++ " has less than " ++ counted least "item" "items"
  | .tooSmall v least => v.text ++ " is less than the minimum of " ++ least.text
  | .noOption v options => v.text ++ " is not one of " ++ candidates (options.map Value.text)
  | .noAlternative v => v.text ++ " is not valid under any of the schemas listed in the 'oneOf' keyword"
  | .severalAlternatives v =>
    v.text ++ " is valid under more than one of the schemas listed in the 'oneOf' keyword"

end Violation
end PromptForm
