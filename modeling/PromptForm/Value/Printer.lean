import PromptForm.Value.Basic
import PromptForm.Text.Quoted

/-!
# Data text of values

Compact text has no blanks; pretty text puts every entry on a line of its own, two blanks deeper than
its container. Both write the fields of an object in the order they are held.
-/

namespace PromptForm.Value

mutual
/-- Compact data text. -/
def text : Value → String
  | .null => "null"
  | .bool b => if b then "true" else "false"
  | .number n => n.text
  | .string s => Text.jsonQuoted s
  | .list items => "[" ++ textItems items ++ "]"
  | .object fields => "\x7b" ++ textFields fields ++ "\x7d"
termination_by structural v => v
def textItems : List Value → String
  | [] => ""
  | v :: vs => text v ++ (if vs.isEmpty then "" else ",") ++ textItems vs
termination_by structural vs => vs
def textFields : List (String × Value) → String
  | [] => ""
  | (k, v) :: fs => Text.jsonQuoted k ++ ":" ++ text v ++ (if fs.isEmpty then "" else ",") ++ textFields fs
termination_by structural fs => fs
end

/-- A new line at a depth. -/
def lineAt (depth : Nat) : String := String.ofList ('\n' :: List.replicate (2 * depth) ' ')

mutual
/-- Pretty data text of a value whose container stands at a depth. -/
def prettyAt (depth : Nat) : Value → String
  | .null => "null"
  | .bool b => if b then "true" else "false"
  | .number n => n.text
  | .string s => Text.jsonQuoted s
  | .list [] => "[]"
  | .list (v :: vs) => "[" ++ prettyItems (depth + 1) (v :: vs) ++ lineAt depth ++ "]"
  | .object [] => "\x7b\x7d"
  | .object (f :: fs) => "\x7b" ++ prettyFields (depth + 1) (f :: fs) ++ lineAt depth ++ "\x7d"
termination_by structural v => v
def prettyItems (depth : Nat) : List Value → String
  | [] => ""
  | v :: vs => lineAt depth ++ prettyAt depth v ++ (if vs.isEmpty then "" else ",") ++ prettyItems depth vs
termination_by structural vs => vs
def prettyFields (depth : Nat) : List (String × Value) → String
  | [] => ""
  | (k, v) :: fs =>
    lineAt depth ++ Text.jsonQuoted k ++ ": " ++ prettyAt depth v ++ (if fs.isEmpty then "" else ",") ++
      prettyFields depth fs
termination_by structural fs => fs
end

def pretty (v : Value) : String := prettyAt 0 v

example : text (.object [("a", .list [.null, int 1, .float 1.0])]) = "\x7b\"a\":[null,1,1.0]\x7d" := by
  decide +kernel

end PromptForm.Value
