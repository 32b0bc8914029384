import PromptForm.Schema.Basic

/-!
# Reading schemas

A schema is written as data: a boolean, or an object of keywords. The rules take the order of their
keywords, except that the known fields of an object come with the rule on unknown ones. A keyword with a
value of the wrong kind makes the whole thing no schema; keywords that are not listed say nothing.
-/

namespace PromptForm.Schema

/-- What one keyword contributes. -/
inductive Keyword where
  | known (entries : List (String × Schema))
  | others (schema : Schema)
  | rule (schema : Schema)
  | silent

/-- A count written as a whole number. -/
def count? (v : Value) : Option Nat := do
  let n ← v.toNumber?.bind Number.whole?
  if 0 ≤ n then some n.toNat else none

/-- Names that are all different. -/
def names? (vs : List Value) : Option (List String) := do
  let names ← vs.mapM Value.toString?
  if (names.eraseDups).length == names.length then some names else none

/-- Type names in the order in which messages list them. -/
def types? : Value → Option (List TypeName)
  | .string s => (TypeName.ofName? s).map ([·])
  | .list vs => do
    let names ← names? vs
    let types ← names.mapM TypeName.ofName?
    if types.isEmpty then none else some (TypeName.all.filter types.contains)
  | _ => none

/-- The rules of an object schema from its keywords. The known fields stand with the rule on the others if
    there is one, else at their own place. -/
def assemble (keywords : List Keyword) : Schema :=
  let known := keywords.findSome? fun
    | .known entries => some entries
    | _ => none
  let closing := keywords.any fun
    | .others .anything => false
    | .others _ => true
    | _ => false
  .all (keywords.filterMap fun
    | .rule s => some s
    | .others .anything => none
    | .others .nothing =>
      match known with
      | some entries => some (.fields entries true)
      | none => some (.fieldsElse [] .nothing)
    | .others s => some (.fieldsElse (known.getD []) s)
    | .known entries => if closing then none else some (.fields entries false)
    | .silent => none)

/-- A keyword whose value holds no schemas. -/
def plainKeyword? (key : String) (v : Value) : Option Keyword :=
  if key = "enum" then v.toList?.map fun vs => .rule (.oneValue vs)
  else if key = "required" then (v.toList?.bind names?).map fun names => .rule (.required names)
  else if key = "type" then (types? v).map fun ts => .rule (.ofType ts)
  else if key = "minItems" then (count? v).map fun n => .rule (.minItems n)
  else if key = "minLength" then (count? v).map fun n => .rule (.minLength n)
  else if key = "minimum" then v.toNumber?.map fun n => .rule (.minimum n)
  else if key = "pattern" then
    v.toString?.bind fun s => (Pattern.ofText? s).map fun p => .rule (.pattern s p)
  else some .silent

mutual
def ofValue? : Value → Option Schema
  | .bool true => some .anything
  | .bool false => some .nothing
  | .object entries => (keywords? entries).map assemble
  | _ => none
termination_by structural v => v

/-- The schemas of a list. -/
def ofItems? : List Value → Option (List Schema)
  | [] => some []
  | v :: vs =>
    match ofValue? v, ofItems? vs with
    | some s, some ss => some (s :: ss)
    | _, _ => none
termination_by structural vs => vs

/-- The schemas of an object's fields. -/
def ofFields? : List (String × Value) → Option (List (String × Schema))
  | [] => some []
  | (k, v) :: fs =>
    match ofValue? v, ofFields? fs with
    | some s, some ss => some ((k, s) :: ss)
    | _, _ => none
termination_by structural fs => fs

def keywords? : List (String × Value) → Option (List Keyword)
  | [] => some []
  | (key, v) :: rest =>
    let keyword? : Option Keyword :=
      if key = "additionalProperties" then (ofValue? v).map .others
      else if key = "items" then (ofValue? v).map fun s => .rule (.items s)
      else if key = "properties" then
        match v with
        | .object entries => (ofFields? entries).map .known
        | _ => none
      else if key = "oneOf" then
        match v with
        | .list [] => none
        | .list vs => (ofItems? vs).map fun ss => .rule (.exactlyOne ss)
        | _ => none
      else plainKeyword? key v
    match keyword?, keywords? rest with
    | some k, some ks => some (k :: ks)
    | _, _ => none
termination_by structural fs => fs
end

end PromptForm.Schema
