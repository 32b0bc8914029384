import PromptForm.Value.Basic
import PromptForm.Text.Blank
import PromptForm.Number.Reading

/-!
# Scopes

A scope says what names mean: the bindings of the loops around a place, innermost first, and below them
the collected answers. A name may be a path into a value, `user.role` or `items.0`. A name without a
meaning reads as null.
-/

namespace PromptForm

structure Scope where
  /-- The collected answers. -/
  answers : Fields
  /-- The loop bindings, the innermost first. -/
  bindings : List (String × Value) := []

namespace Scope

/-- The scope inside a loop, where a name is bound. -/
def bind (scope : Scope) (name : String) (value : Value) : Scope :=
  { scope with bindings := (name, value) :: scope.bindings }

/-- The scope in a round of a loop: the item is bound, and the number of the round if it has a name. -/
def inRound (scope : Scope) (binding : String) (index : Option String) (i : Nat) (item : Value) : Scope :=
  match index with
  | some name => (scope.bind binding item).bind name (Value.int i)
  | none => scope.bind binding item

/-- The collected answer under a name, whatever is bound. -/
def answer? (scope : Scope) (name : String) : Option Value := Fields.get? name scope.answers

/-- The innermost binding of a name, else the answer. -/
def root? (scope : Scope) (name : String) : Option Value :=
  (Fields.get? name scope.bindings).or (scope.answer? name)

/-- One step of a path: a field of an object or an entry of a list. -/
def step? (v : Value) (segment : String) : Option Value :=
  match v with
  | .object fields => Fields.get? segment fields
  | .list items => (Number.count? segment).bind fun i => items[i]?
  | _ => none

/-- Follows the segments of a path; null where one leads nowhere. -/
def follow (v : Value) : List String → Value
  | [] => v
  | segment :: rest =>
    match step? v segment with
    | some next => follow next rest
    | none => .null

/-- The name before the first dot of a path. -/
def rootOf (path : String) : String := (Text.split '.' path).headD ""

/-- The value of a path, null if it has none. -/
def get (scope : Scope) (path : String) : Value :=
  match scope.root? (rootOf path) with
  | some v => follow v (Text.split '.' path).tail
  | none => .null

/-- Whether the root of a path is bound or answered. -/
def isResolved (scope : Scope) (path : String) : Bool := (scope.root? (rootOf path)).isSome

/-- All names as fields of one object: the answers, over them the bindings from the outermost inward,
    and last the environment as `env`. -/
def templateFields (scope : Scope) (env : Value) : Fields :=
  Fields.insert "env" env (Fields.insertAll scope.bindings.reverse scope.answers)

end Scope
end PromptForm
