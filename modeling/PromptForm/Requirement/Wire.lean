import PromptForm.Requirement.Basic

/-!
# The data form of requirements

Fields stand in the order in which a reader wants them, and what is unset is left out.
-/

namespace PromptForm

/-- A field that is left out when unset. -/
def optionalField {α : Type} (key : String) (form : α → Value) : Option α → List (String × Value)
  | some a => [(key, form a)]
  | none => []

def textList (items : List String) : Value := .list (items.map .string)

def Validator.toValue : Validator → Value
  | .pattern source => .object [("type", .string "pattern"), ("pattern", .string source)]
  | .range min max =>
    .object (("type", .string "range") ::
      optionalField "min" Value.float min ++ optionalField "max" Value.float max)
  | .length min max =>
    .object (("type", .string "length") ::
      optionalField "min" (fun n : Nat => Value.int n) min ++ optionalField "max" (fun n : Nat => Value.int n) max)
  | .oneOf options => .object [("type", .string "oneOf"), ("options", textList options)]
  | .subsetOf options min max =>
    .object ([("type", .string "subsetOf"), ("options", textList options)] ++
      optionalField "min" (fun n : Nat => Value.int n) min ++ optionalField "max" (fun n : Nat => Value.int n) max)

def Requirement.toValue (r : Requirement) : Value :=
  .object ([("name", .string r.name), ("kind", .string r.kind.name), ("label", .string r.label)] ++
    optionalField "description" Value.string r.description ++ [("required", .bool r.required)] ++
    optionalField "default" id r.default ++
    (if r.validators.isEmpty then [] else [("validators", .list (r.validators.map Validator.toValue))]))

end PromptForm
