import PromptForm.Environment.Provider
import PromptForm.Text.Case

/-!
# Sections and list items as text

A section stands between empty lines, set off as its delimiter style says; one without content leaves
nothing. A list item starts on a line of its own with its marker, its further lines are indented, and it
ends with a newline.
-/

namespace PromptForm.Output

/-- A name as a title: its words, which dashes, underscores and dots part, with a capital each. -/
def titleOf (name : List Char) : List Char :=
  let words := (Text.splitBy (fun c => c == '-' || c == '_' || c == '.') name).filter (!·.isEmpty)
  let titled := words.map fun
    | [] => []
    | c :: cs => Text.capital c ++ cs
  [' '].intercalate titled

/-- The deepest heading. -/
def deepestHeading : Nat := 6

/-- The heading marks of a section inside so many others. -/
def headingMarks (sections : Nat) : List Char := List.replicate (min (sections + 2) deepestHeading) '#'

/-- How a section is written. -/
structure SectionStyle where
  delimiter : Delimiter
  name : List Char
  /-- A title that is given; else it is made from the name. -/
  title : Option (List Char)
  /-- Sections around this one. -/
  depth : Nat
  /-- Whether blanks around the body go. -/
  trims : Bool

/-- What stands between two empty lines. -/
def setOff (cs : List Char) : List Char := ['\n', '\n'] ++ cs ++ ['\n', '\n']

/-- A section around a body. -/
def sectionText (style : SectionStyle) (body : List Char) : List Char :=
  let body := if style.trims then Text.trim body else body
  if body.all Text.isBlank then []
  else
    match style.delimiter with
    | .xml =>
      setOff ('<' :: style.name ++ ['>', '\n'] ++ body ++ ['\n', '<', '/'] ++ style.name ++ ['>'])
    | .markdown =>
      let title := style.title.getD (titleOf style.name)
      setOff (headingMarks style.depth ++ ' ' :: title ++ ['\n', '\n'] ++ body)
    | .none => setOff body

/-- The further lines of an item: indented unless empty. -/
def indented (indent : List Char) (lines : List (List Char)) : List Char :=
  lines.flatMap fun line => (if line.isEmpty then [] else indent ++ line) ++ ['\n']

/-- A newline if a text does not end with one. -/
def freshLine (out : List Char) : List Char :=
  match out.getLast? with
  | none | some '\n' => []
  | some _ => ['\n']

/-- What an item adds to a text. -/
def itemText (indent marker out body : List Char) : List Char :=
  let body := Text.trim body
  match Text.lines body with
  | [] => []
  | first :: rest => freshLine out ++ marker ++ ' ' :: first ++ '\n' :: indented indent rest

example : String.ofList (titleOf "success-criteria".toList) = "Success Criteria" := by decide +kernel
example : String.ofList (itemText "  ".toList "1.".toList "x".toList " Write\ncode ".toList) =
    "\n1. Write\n  code\n" := by decide +kernel

end PromptForm.Output
