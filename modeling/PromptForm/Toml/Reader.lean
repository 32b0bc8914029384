import PromptForm.Toml.Scalar
import PromptForm.Toml.Table

/-!
# Reading configuration files

A reader for TOML 1.1. It goes through the file statement by statement and then lays the statements out
as tables. Lists and inline tables may run over several lines, with comments between their parts; they
may stand inside each other up to a depth of eighty.
-/

namespace PromptForm.Toml

/-- Lists and inline tables that may stand inside each other. -/
def maxNesting : Nat := 80

/-! ### Blanks, comments and line ends -/

/-- The rest after a comment, which goes to the end of the line; a control character inside is refused. -/
def dropComment? : List Char → Option (List Char)
  | '#' :: cs =>
    let rest := cs.dropWhile isPlain
    if rest.isEmpty || (lineBreak? rest).isSome then some rest else none
  | cs => some cs

/-- The rest behind the end of the line: blanks and a comment may come before it. -/
def endLine? (cs : List Char) : Option (List Char) := do
  let rest ← dropComment? (skipBlanks cs)
  if rest.isEmpty then some [] else lineBreak? rest

/-- Skips blanks, line breaks and comments; `fuel` bounds the comments. -/
def skipGaps? : Nat → List Char → Option (List Char)
  | 0, _ => none
  | fuel + 1, cs =>
    match skipLines cs with
    | '#' :: rest => (dropComment? ('#' :: rest)).bind (skipGaps? fuel)
    | rest => some rest

def skipGaps (cs : List Char) : Option (List Char) := skipGaps? (cs.length + 1) cs

/-! ### Keys -/

def isBareChar (c : Char) : Bool := c.isAlphanum || c == '_' || c == '-'

/-- One name of a key: bare or quoted. -/
def name? (cs : List Char) : Option (String × List Char) :=
  match lineString? cs with
  | some (s, rest) => some (String.ofList s, rest)
  | none =>
    let word := cs.takeWhile isBareChar
    if word.isEmpty then none else some (String.ofList word, cs.dropWhile isBareChar)

/-- The names of a key, with points between them; `fuel` bounds the names. -/
def names? : Nat → List Char → Option (Key × List Char)
  | 0, _ => none
  | fuel + 1, cs => do
    let (name, rest) ← name? cs
    match skipBlanks rest with
    | '.' :: rest =>
      let (key, rest) ← names? fuel (skipBlanks rest)
      some (⟨name :: key.path, key.name⟩, rest)
    | rest => some (⟨[], name⟩, rest)

/-- A key, with the blanks after it taken away. -/
def key? (cs : List Char) : Option (Key × List Char) := names? (cs.length + 1) cs

/-- A key and the equals sign after it. -/
def keyEquals? (cs : List Char) : Option (Key × List Char) := do
  match ← key? cs with
  | (key, '=' :: rest) => some (key, skipBlanks rest)
  | _ => none

/-! ### Values -/

mutual
/-- A value; `room` containers may still be opened inside each other. -/
def value? : Nat → Nat → List Char → Option (Value × List Char)
  | 0, _, _ => none
  | fuel + 1, room, cs =>
    match cs with
    | '[' :: cs =>
      match room with
      | 0 => none
      | room + 1 => (items? fuel room [] cs).map fun (vs, rest) => (.list vs, rest)
    | '\x7b' :: cs =>
      match room with
      | 0 => none
      | room + 1 => (fields? fuel room [] cs).map fun (t, rest) => (.object (Entry.fieldsOf t), rest)
    | cs =>
      match string? cs with
      | some (s, rest) => some (.string (String.ofList s), rest)
      | none =>
        let (word, rest) := splitScalar cs
        (scalar? word).map fun v => (v, rest)

/-- The items of a list up to its end; a comma may follow the last one. -/
def items? : Nat → Nat → List Value → List Char → Option (List Value × List Char)
  | 0, _, _, _ => none
  | fuel + 1, room, acc, cs => do
    match ← skipGaps cs with
    | ']' :: rest => some (acc.reverse, rest)
    | cs =>
      let (v, rest) ← value? fuel room cs
      match ← skipGaps rest with
      | ',' :: rest => items? fuel room (v :: acc) rest
      | ']' :: rest => some ((v :: acc).reverse, rest)
      | _ => none

/-- The entries of an inline table up to its end; a comma may follow the last one. -/
def fields? : Nat → Nat → Entries → List Char → Option (Entries × List Char)
  | 0, _, _, _ => none
  | fuel + 1, room, t, cs => do
    match ← skipGaps cs with
    | '\x7d' :: rest => some (t, rest)
    | cs =>
      let (key, rest) ← keyEquals? cs
      let (v, rest) ← value? fuel room rest
      let t ← Entries.putUnder? key.name v key.path t
      match ← skipGaps rest with
      | ',' :: rest => fields? fuel room t rest
      | '\x7d' :: rest => some (t, rest)
      | _ => none
end

/-! ### Statements -/

/-- A statement without the end of its line. -/
def statement? (cs : List Char) : Option (Statement × List Char) :=
  match cs with
  | '[' :: '[' :: cs => do
    match ← key? (skipBlanks cs) with
    | (key, ']' :: ']' :: rest) => some (.row key, rest)
    | _ => none
  | '[' :: cs => do
    match ← key? (skipBlanks cs) with
    | (key, ']' :: rest) => some (.header key, rest)
    | _ => none
  | cs => do
    let (key, rest) ← keyEquals? cs
    let (v, rest) ← value? (2 * rest.length + 2) maxNesting rest
    some (.entry key v, rest)

/-- All statements of a text; `fuel` bounds the lines. -/
def statements? : Nat → List Char → Option (List Statement)
  | 0, _ => none
  | fuel + 1, cs =>
    match skipBlanks cs with
    | [] => some []
    | c :: cs =>
      if c == '#' || (lineBreak? (c :: cs)).isSome then (endLine? (c :: cs)).bind (statements? fuel)
      else do
        let (s, rest) ← statement? (c :: cs)
        let rest ← endLine? rest
        (statements? fuel rest).map (s :: ·)

/-- The value that a whole file writes. A byte order mark before it does not count. -/
def read? (s : String) : Option Value := do
  let cs :=
    match s.toList with
    | '\ufeff' :: cs => cs
    | cs => cs
  let statements ← statements? (cs.length + 1) cs
  let document ← Document.ofStatements? statements
  some document.toValue

end PromptForm.Toml
