import PromptForm.Value.Printer
import PromptForm.Text.Blank

/-!
# How values are read in prompts

Three views of a value: whether it counts as true, whether it is blank, and the text it prints.
-/

namespace PromptForm.Value

/-- Null, false, zero and everything empty are not truthy; not-a-number is. -/
def truthy : Value → Bool
  | .null => false
  | .bool b => b
  | .number n => n.toFloat != 0
  | .string s => !s.toList.isEmpty
  | .list items => !items.isEmpty
  | .object fields => !fields.isEmpty

/-- Null, texts of blanks and everything empty are blank; booleans and numbers never are. -/
def isBlank : Value → Bool
  | .null => true
  | .string s => Text.allBlank s
  | .list items => items.isEmpty
  | .object fields => fields.isEmpty
  | .bool _ | .number _ => false

mutual
/-- The text of a value in a prompt: nothing for null, strings as they are, lists as comma lists, and
    data text for the rest. -/
def display : Value → String
  | .null => ""
  | .string s => s
  | .list items => displayItems items
  | .bool b => text (.bool b)
  | .number n => text (.number n)
  | .object fields => text (.object fields)
termination_by structural v => v
def displayItems : List Value → String
  | [] => ""
  | [v] => display v
  | v :: vs => display v ++ ", " ++ displayItems vs
termination_by structural vs => vs
end

/-- The strings among the parts of a comma list, as values. -/
def ofCommaList (s : String) : List Value := (Text.commaParts s).map .string

end PromptForm.Value
