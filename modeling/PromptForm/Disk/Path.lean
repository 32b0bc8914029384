import PromptForm.Text.Blank

/-!
# Paths

A path is the text that names a file, and leads to a place: the names of the folders on the way and the
name at its end. Empty names and single points lead nowhere new, two points lead back. Paths that begin
with a slash start at the root, all others in the working folder.
-/

namespace PromptForm.Disk

/-- The names on the way from the working folder. -/
abbrev Place := List String

structure Path where
  text : String
deriving DecidableEq, Repr

namespace Path

/-- The names between the slashes. -/
def names (p : Path) : List String := (Text.splitBy (· == '/') p.text.toList).map String.ofList

/-- One step on the way; stepping back from the working folder is kept as a name. -/
def step (place : Place) (name : String) : Place :=
  if name = "" ∨ name = "." then place
  else if name = ".." then
    match place.getLast? with
    | none | some ".." => place ++ [name]
    | some "/" => place
    | some _ => place.dropLast
  else place ++ [name]

/-- Where a path starts. -/
def start (p : Path) : Place := if p.text.startsWith "/" then ["/"] else []

/-- The place that a path leads to. -/
def place (p : Path) : Place := p.names.foldl step p.start

/-- The names from the last one on, without slashes at the end. -/
def backwards (p : Path) : List String := p.names.reverse.dropWhile (· == "")

/-- The names on the way: all but the last one. -/
def way (p : Path) : List String := p.backwards.tail.reverse

/-- Whether the last step of a path leads back or nowhere. -/
def endsInStep (p : Path) : Bool :=
  match p.backwards.head? with
  | none => true
  | some name => name == "." || name == ".."

/-- A path with a slash at its end, alone or before a point, means a folder. -/
def meansFolder (p : Path) : Bool := p.names.getLast? == some "" || p.names.getLast? == some "."

/-- Drops slashes, and points after them, from the end of a text that is held in reverse. -/
def trimEnd : List Char → List Char
  | '/' :: cs => trimEnd cs
  | '.' :: '/' :: cs => trimEnd cs
  | cs => cs

/-- The text before the file name, and the file name. -/
def split (p : Path) : List Char × List Char :=
  let reversed := trimEnd p.text.toList.reverse
  ((reversed.dropWhile (· != '/')).reverse, (reversed.takeWhile (· != '/')).reverse)

/-- Whether the end of a path is the name of a file and not a step back or on the spot. -/
def hasFileName (p : Path) : Bool :=
  let name := p.split.2
  !(name.isEmpty || name == ['.'] || name == ['.', '.'])

/-- The path of the folder that holds the file, unless it is the working folder. -/
def folder? (p : Path) : Option Path :=
  let front := p.split.1
  if front.isEmpty then none
  else
    match trimEnd front.reverse with
    | [] => some ⟨"/"⟩
    | reversed => some ⟨String.ofList reversed.reverse⟩

/-- A file name up to its last point; a name that begins with its only point is kept whole. -/
def stemOf (name : List Char) : List Char :=
  match (name.reverse.dropWhile (· != '.')).drop 1 with
  | [] => name
  | reversed => reversed.reverse

/-- The path whose file has another extension; a path without a file name stays as it is. -/
def withExtension (p : Path) (extension : String) : Path :=
  if p.hasFileName then
    let (front, name) := p.split
    ⟨String.ofList (front ++ stemOf name ++ '.' :: extension.toList)⟩
  else p

example : (withExtension ⟨"a/b.conf"⟩ "tmp").text = "a/b.tmp" := by decide +kernel
example : (withExtension ⟨".x"⟩ "tmp").text = ".x.tmp" := by decide +kernel
example : place ⟨"./a//../b/"⟩ = ["b"] := by decide +kernel
example : way ⟨"./a//../b/"⟩ = [".", "a", "", ".."] := by decide +kernel

end Path
end PromptForm.Disk
