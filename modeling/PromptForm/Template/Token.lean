import PromptForm.Number.Reading
import PromptForm.Text.Blank

/-!
# Pieces of a template

A template is cut into pieces before its grammar is read: plain text, output tags with an expression and
block tags with a statement. A tag is read into tokens up to its end mark. Comments leave no piece, and
what stands in a raw block is text. A minus sign inside a mark takes the blanks beside the tag away.
-/

namespace PromptForm.Template

inductive Token where
  /-- A name or a keyword. -/
  | word (name : String)
  | string (text : String)
  | int (n : Nat)
  | float (x : Float)
  /-- An operator or a bracket. -/
  | symbol (mark : String)
deriving DecidableEq

inductive Piece where
  | text (s : String)
  | output (tokens : List Token)
  | block (tokens : List Token)
deriving DecidableEq

namespace Token

/-! ### Tokens inside a tag -/

/-- Blank between tokens. -/
def isGap (c : Char) : Bool := c == ' ' || c == '\t' || c == '\n' || c == '\r' || c == '\x0c'

def skipGaps (cs : List Char) : List Char := cs.dropWhile isGap

def isWordStart (c : Char) : Bool := c.isAlpha || c == '_'

def isWordPart (c : Char) : Bool := c.isAlphanum || c == '_'

/-- The character of four hexadecimal digits. -/
def hexValue? (cs : List Char) : Option Nat :=
  cs.foldlM (fun n c =>
    if c.isDigit then some (16 * n + (c.toNat - 48))
    else if 'a' ≤ c ∧ c ≤ 'f' then some (16 * n + (c.toNat - 87))
    else if 'A' ≤ c ∧ c ≤ 'F' then some (16 * n + (c.toNat - 55))
    else none) 0

/-- The character that a backslash and a letter stand for. -/
def escaped? (c : Char) : Option Char :=
  if c = '"' ∨ c = '\\' ∨ c = '/' ∨ c = '\'' then some c
  else if c = 'n' then some '\n'
  else if c = 't' then some '\t'
  else if c = 'r' then some '\r'
  else if c = 'b' then some '\x08'
  else if c = 'f' then some '\x0c'
  else none

/-- The body of a string up to its quote, escapes resolved, and what follows. -/
def stringBody? (quote : Char) : List Char → Option (List Char × List Char)
  | [] => none
  | '\\' :: 'u' :: a :: b :: c :: d :: cs => do
    let n ← hexValue? [a, b, c, d]
    let (body, rest) ← stringBody? quote cs
    if n.isValidChar then some (Char.ofNat n :: body, rest) else none
  | '\\' :: c :: cs => do
    let c ← escaped? c
    let (body, rest) ← stringBody? quote cs
    some (c :: body, rest)
  | c :: cs =>
    if c = quote then some ([], cs)
    else (stringBody? quote cs).map fun (body, rest) => (c :: body, rest)

/-- The parts of a number: how it goes on after a character. -/
inductive NumberPart where
  | whole | fraction | exponent | exponentDigits
deriving DecidableEq

/-- The part a number is in after one more character, if the character belongs to it. -/
def NumberPart.next? (part : NumberPart) (c : Char) : Option NumberPart :=
  if c.isDigit then some (if part = .exponent then .exponentDigits else part)
  else if c = '_' then some part
  else
    match part with
    | .whole => if c = '.' then some .fraction else if c = 'e' ∨ c = 'E' then some .exponent else none
    | .fraction => if c = 'e' ∨ c = 'E' then some .exponent else none
    | .exponent => if c = '+' ∨ c = '-' then some .exponentDigits else none
    | .exponentDigits => none

/-- The characters of a number, the part it ends in, and what follows. -/
def numberSpan (part : NumberPart) : List Char → List Char × NumberPart × List Char
  | [] => ([], part, [])
  | c :: cs =>
    match part.next? c with
    | none => ([], part, c :: cs)
    | some next =>
      let (digits, last, rest) := numberSpan next cs
      (c :: digits, last, rest)

/-- A number at the front. Underscores may stand between its digits; a whole number is below `2 ^ 128`. -/
def number? (cs : List Char) : Option (Token × List Char) :=
  let (chars, part, rest) := numberSpan .whole cs
  if chars.getLast? = some '_' then none
  else
    let digits := chars.filter (· != '_')
    if part = .whole then
      let n := Number.natOfDigits digits
      if n < Number.twoTo 128 then some (.int n, rest) else none
    else (Number.float? (String.ofList digits)).map fun x => (.float x, rest)

/-- The marks of two characters. -/
def pairMarks : List (List Char) :=
  [['/', '/'], ['*', '*'], ['=', '='], ['!', '='], ['>', '='], ['<', '=']]

/-- The marks of one character. -/
def singleMarks : List Char :=
  ['+', '-', '*', '/', '%', '.', ',', ':', '~', '|', '=', '>', '<', '(', ')', '[', ']', '\x7b', '\x7d']

/-- The token at the front of a text that does not start with a gap. -/
def first? : List Char → Option (Token × List Char)
  | [] => none
  | c :: cs =>
    if pairMarks.contains (c :: cs.take 1) then some (.symbol (String.ofList (c :: cs.take 1)), cs.drop 1)
    else if singleMarks.contains c then some (.symbol (String.singleton c), cs)
    else if c = '"' ∨ c = '\'' then
      (stringBody? c cs).map fun (body, rest) => (.string (String.ofList body), rest)
    else if c.isDigit then number? (c :: cs)
    else if isWordStart c then
      some (.word (String.ofList ((c :: cs).takeWhile isWordPart)), (c :: cs).dropWhile isWordPart)
    else none

/-- What follows the end mark of a tag if it stands at the front, and whether blanks after it go. -/
def tagEnd? (close : List Char) (cs : List Char) : Option (Bool × List Char) :=
  match cs with
  | '-' :: tail =>
    match Text.afterPrefix? close tail with
    | some rest => some (true, rest)
    | none => none
  | '+' :: tail => (Text.afterPrefix? close tail).map (false, ·)
  | _ => (Text.afterPrefix? close cs).map (false, ·)

/-- The tokens up to the end mark of a tag, whether blanks after it go, and what follows it. -/
def upTo? (close : List Char) : Nat → List Char → Option (List Token × Bool × List Char)
  | 0, _ => none
  | fuel + 1, cs => do
    let cs := skipGaps cs
    match tagEnd? close cs with
    | some (trims, rest) => some ([], trims, rest)
    | none =>
      let (token, rest) ← first? cs
      let (tokens, trims, rest) ← upTo? close fuel rest
      some (token :: tokens, trims, rest)

end Token

namespace Piece

/-! ### Cutting a template -/

/-- The kinds of tags. -/
inductive Mark where
  | output | block | comment
deriving DecidableEq

def Mark.ofChar? (c : Char) : Option Mark :=
  if c = '\x7b' then some .output
  else if c = '%' then some .block
  else if c = '#' then some .comment
  else none

/-- The text before the first tag and what stands from its kind on, if there is a tag. -/
def untilMark : List Char → List Char × Option (Mark × List Char)
  | [] => ([], none)
  | [c] => ([c], none)
  | c :: d :: cs =>
    match (if c = '\x7b' then Mark.ofChar? d else none) with
    | some mark => ([], some (mark, cs))
    | none =>
      let (lead, rest) := untilMark (d :: cs)
      (c :: lead, rest)

/-- The sign inside an opening mark: whether blanks before the tag go, and the rest of the tag. -/
def openingSign : List Char → Bool × List Char
  | '-' :: cs => (true, cs)
  | '+' :: cs => (false, cs)
  | cs => (false, cs)

/-- What follows a comment's end, and whether blanks after it go. -/
def afterComment? : List Char → Option (Bool × List Char)
  | [] => none
  | '-' :: '#' :: '\x7d' :: cs => some (true, cs)
  | '#' :: '\x7d' :: cs => some (false, cs)
  | _ :: cs => afterComment? cs

/-- A block tag of one bare word, read from inside the mark: whether blanks before and after it go, and
    what follows. -/
def bareTag? (word : String) (cs : List Char) : Option (Bool × Bool × List Char) := do
  let (trimsBefore, cs) := openingSign cs
  let cs ← Text.afterPrefix? word.toList (Token.skipGaps cs)
  let (trimsAfter, rest) ← Token.tagEnd? ['%', '\x7d'] (Token.skipGaps cs)
  some (trimsBefore, trimsAfter, rest)

/-- The text of a raw block, whether blanks at its end and after the block go, and what follows. -/
def rawBody? : List Char → Option (List Char × Bool × Bool × List Char)
  | [] => none
  | '\x7b' :: '%' :: cs =>
    match bareTag? "endraw" cs with
    | some (trimsBefore, trimsAfter, rest) => some ([], trimsBefore, trimsAfter, rest)
    | none => (rawBody? cs).map fun (body, more) => ('\x7b' :: '%' :: body, more)
  | c :: cs => (rawBody? cs).map fun (body, more) => (c :: body, more)

/-- A text piece in front of others, if there is any text. -/
def textThen (text : List Char) (pieces : List Piece) : List Piece :=
  if text.isEmpty then pieces else .text (String.ofList text) :: pieces

def trimmedIf (trims : Bool) (trim : List Char → List Char) (cs : List Char) : List Char :=
  if trims then trim cs else cs

/-- The pieces of a text; `trims` says whether blanks at its front go. -/
def cut? : Nat → Bool → List Char → Option (List Piece)
  | 0, _, _ => none
  | fuel + 1, trims, cs =>
    match untilMark (trimmedIf trims Text.trimStart cs) with
    | (lead, none) => some (textThen lead [])
    | (lead, some (mark, inner)) =>
      let (trimsBefore, tag) := openingSign inner
      let lead := trimmedIf trimsBefore Text.trimEnd lead
      match mark with
      | .comment => do
        let (trimsAfter, rest) ← afterComment? inner
        some (textThen lead (← cut? fuel trimsAfter rest))
      | .output => do
        let (tokens, trimsAfter, rest) ← Token.upTo? ['\x7d', '\x7d'] (tag.length + 1) tag
        some (textThen lead (.output tokens :: (← cut? fuel trimsAfter rest)))
      | .block =>
        match bareTag? "raw" inner with
        | some (_, trimsBody, body) => do
          let (raw, trimsRaw, trimsAfter, rest) ← rawBody? body
          let raw := trimmedIf trimsRaw Text.trimEnd (trimmedIf trimsBody Text.trimStart raw)
          some (textThen lead (textThen raw (← cut? fuel trimsAfter rest)))
        | none => do
          let (tokens, trimsAfter, rest) ← Token.upTo? ['%', '\x7d'] (tag.length + 1) tag
          some (textThen lead (.block tokens :: (← cut? fuel trimsAfter rest)))

/-- The pieces of a template; none if a tag, a comment or a raw block does not end, or if a tag holds what
    is no token. -/
def ofText? (s : String) : Option (List Piece) := cut? (s.length + 1) false s.toList

end Piece
end PromptForm.Template
