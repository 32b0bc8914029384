import PromptForm.Text.Blank

/-!
# The normal form of a text

Several blank lines in a row read as one. In the normal form a run of two or more blank lines inside a
text is one empty line; a single blank line stays as it is, and so do the first and the last line, which
have no newline on one side.
-/

namespace PromptForm.Output

/-- Nothing but spaces and tabs. -/
def isBlankLine (line : List Char) : Bool := line.all fun c => c == ' ' || c == '\t'

/-- Lines before which `pending` blank lines stand, with every run of blank lines made one. The pending
    lines are `none`, a single one, or a run. -/
def mergeRuns (pending : Option (List Char)) : List (List Char) → List (List Char)
  | [] => pending.toList
  | line :: rest =>
    -- A blank line alone stays as it is; from the second on an empty one stands for them all.
    if isBlankLine line then mergeRuns (some (if pending.isSome then [] else line)) rest
    else pending.toList ++ line :: mergeRuns none rest

/-- The lines of a text with the runs between the first and the last merged. -/
def mergeInside : List (List Char) → List (List Char)
  | [] => []
  | first :: rest =>
    match rest.getLast? with
    | none => [first]
    | some last => first :: (mergeRuns none rest.dropLast ++ [last])

/-- Lines with newlines between them. -/
def joinLines : List (List Char) → List Char
  | [] => []
  | [line] => line
  | line :: rest => line ++ '\n' :: joinLines rest

/-- A text without runs of blank lines. -/
def collapse (cs : List Char) : List Char := joinLines (mergeInside (Text.splitBy (· == '\n') cs))

/-- The normal form of a text, where blanks at its ends go if `trims`. -/
def normalForm (trims : Bool) (cs : List Char) : List Char :=
  if trims then Text.trim (collapse cs) else collapse cs

example : String.ofList (normalForm true "a\n\n\n \n\nb\n".toList) = "a\n\nb" := by decide +kernel
example : String.ofList (normalForm false "a\n \nb\n".toList) = "a\n \nb\n" := by decide +kernel

end PromptForm.Output
