import PromptForm.Number.Layout
import PromptForm.Toml.Quoted
import PromptForm.Value.Basic

/-!
# Writing configuration files

A file is written section by section: a header, one entry a line, and an empty line.
-/

namespace PromptForm.Toml

/-- What an entry of a written file holds. -/
inductive Plain where
  | string (s : String)
  | bool (b : Bool)
  | count (n : Nat)
  | float (x : Float)

def Plain.toValue : Plain → Value
  | .string s => .string s
  | .bool b => .bool b
  | .count n => .int n
  | .float x => .float x

/-- The text of an entry's value. Floats are written in positions and never without a fraction. -/
def Plain.write : Plain → List Char
  | .string s => quoted s.toList
  | .bool true => ['t', 'r', 'u', 'e']
  | .bool false => ['f', 'a', 'l', 's', 'e']
  | .count n => Nat.toDigits 10 n
  | .float x => (Number.Layout.fraction.text x).toList

/-- A table under a header of one name. -/
structure Section where
  name : String
  entries : List (String × Plain)

def writeEntry (entry : String × Plain) : List Char :=
  entry.1.toList ++ [' ', '=', ' '] ++ entry.2.write ++ ['\n']

def Section.write (s : Section) : List Char :=
  '[' :: s.name.toList ++ [']', '\n'] ++ s.entries.flatMap writeEntry ++ ['\n']

/-- The text of a file. -/
def write (sections : List Section) : String := String.ofList (sections.flatMap Section.write)

end PromptForm.Toml
