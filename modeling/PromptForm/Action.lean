import PromptForm.Requirement.Wire

/-!
# Actions

What a prompt asks to be done after it has been used. Carrying an action out is left to the caller.
-/

namespace PromptForm

inductive Action where
  | reviewFile (file : String) (editor : Option String)
  | openUrl (url : String) (browser : Option String)
  | runCommand (command : String) (cwd : Option String) (env : List (String × String))
deriving DecidableEq, Repr

namespace Action

/-- The data form of an action. -/
def toValue : Action → Value
  | .reviewFile file editor =>
    .object ([("type", .string "reviewFile"), ("file", .string file)] ++
      optionalField "editor" Value.string editor)
  | .openUrl url browser =>
    .object ([("type", .string "openUrl"), ("url", .string url)] ++
      optionalField "browser" Value.string browser)
  | .runCommand command cwd env =>
    .object ([("type", .string "runCommand"), ("command", .string command)] ++
      optionalField "cwd" Value.string cwd ++
      (if env.isEmpty then [] else [("env", .object (env.map fun (k, v) => (k, .string v)))]))

/-- A field that may be missing or null. -/
def optionalText? : Option Value → Option (Option String)
  | none | some .null => some none
  | some (.string s) => some (some s)
  | some _ => none

/-- An object of texts; a missing one is empty. -/
def texts? : Option Value → Option (List (String × String))
  | none => some []
  | some (.object fields) => fields.mapM fun (k, v) => v.toString?.map (k, ·)
  | some _ => none

/-- An action from its type and its fields in order: two texts or, for a command, a text and two more. -/
def ofParts? (type : String) (field : Nat → String → Option Value) : Option Action := do
  if type = "reviewFile" then
    return .reviewFile (← (← field 0 "file").toString?) (← optionalText? (field 1 "editor"))
  else if type = "openUrl" then
    return .openUrl (← (← field 0 "url").toString?) (← optionalText? (field 1 "browser"))
  else if type = "runCommand" then
    return .runCommand (← (← field 0 "command").toString?) (← optionalText? (field 1 "cwd"))
      (← texts? (field 2 "env"))
  else none

/-- The number of fields of an action of a type. -/
def arity (type : String) : Nat := if type = "runCommand" then 3 else 2

/-- The action that a value describes, by the names of its fields or by their places after the type. -/
def ofValue? : Value → Option Action
  | .object fields =>
    match Fields.get? "type" fields with
    | some (.string type) => ofParts? type fun _ key => Fields.get? key fields
    | _ => none
  | .list (.string type :: vs) => if arity type < vs.length then none else ofParts? type fun i _ => vs[i]?
  | _ => none

end Action
end PromptForm
