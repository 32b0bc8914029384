import PromptForm.Value.Reader

/-!
# Strings of configuration files

TOML writes a string in one of four styles: between single or double quotes, on one line or on several.
Between double quotes a backslash begins an escape; between single quotes every character stands for
itself. A string is written in the plainest style that can hold it.

The readers begin behind the opening delimiter, take the closing one, and give the rest with the
characters read.
-/

namespace PromptForm.Toml

/-- Characters that stand for themselves: tab and all that are not ASCII controls. -/
def isPlain (c : Char) : Bool := c == '\t' || (0x20 ≤ c.toNat && c.toNat != 0x7F)

def isBlank (c : Char) : Bool := c == ' ' || c == '\t'

def skipBlanks (cs : List Char) : List Char := cs.dropWhile isBlank

/-- The rest after a line break, if one stands here. -/
def lineBreak? : List Char → Option (List Char)
  | '\n' :: cs => some cs
  | '\r' :: '\n' :: cs => some cs
  | _ => none

/-- Skips blanks and line breaks. -/
def skipLines : List Char → List Char
  | [] => []
  | '\r' :: '\n' :: cs => skipLines cs
  | c :: cs => if isBlank c || c == '\n' then skipLines cs else c :: cs

/-! ### Reading -/

/-- The number that so many hexadecimal digits write. -/
def hex? : Nat → Nat → List Char → Option (Nat × List Char)
  | 0, n, cs => some (n, cs)
  | more + 1, n, c :: cs => (Value.Reader.hexDigit? c).bind fun d => hex? more (16 * n + d) cs
  | _ + 1, _, [] => none

/-- The character with the number that so many hexadecimal digits write. -/
def coded? (digits : Nat) (cs : List Char) : Option (Char × List Char) := do
  let (n, cs) ← hex? digits 0 cs
  if n.isValidChar then some (Char.ofNat n, cs) else none

/-- The character of an escape, after the backslash. -/
def escape? : List Char → Option (Char × List Char)
  | 'b' :: cs => some ('\x08', cs)
  | 't' :: cs => some ('\t', cs)
  | 'n' :: cs => some ('\n', cs)
  | 'f' :: cs => some ('\x0c', cs)
  | 'r' :: cs => some ('\r', cs)
  | 'e' :: cs => some ('\x1b', cs)
  | '"' :: cs => some ('"', cs)
  | '\\' :: cs => some ('\\', cs)
  | 'x' :: cs => coded? 2 cs
  | 'u' :: cs => coded? 4 cs
  | 'U' :: cs => coded? 8 cs
  | _ => none

/-- Puts a character before what a reader gives. -/
def before (c : Char) : Option (List Char × List Char) → Option (List Char × List Char) :=
  Option.map fun (s, rest) => (c :: s, rest)

/-- A string on one line between double quotes; `fuel` bounds the characters. -/
def basic? : Nat → List Char → Option (List Char × List Char)
  | 0, _ => none
  | _ + 1, [] => none
  | fuel + 1, c :: cs =>
    if c = '"' then some ([], cs)
    else if c = '\\' then (escape? cs).bind fun (e, rest) => before e (basic? fuel rest)
    else if isPlain c then before c (basic? fuel cs)
    else none

/-- The closing delimiter of a string on several lines, with the one or two quotes that may stand before
    it and belong to the string. -/
def closing? (quote : Char) : List Char → Option (List Char × List Char)
  | a :: b :: c :: cs =>
    if a = quote ∧ b = quote ∧ c = quote then
      match cs with
      | d :: e :: rest =>
        if d = quote ∧ e = quote then some ([quote, quote], rest)
        else if d = quote then some ([quote], e :: rest)
        else some ([], cs)
      | [d] => if d = quote then some ([quote], []) else some ([], cs)
      | [] => some ([], [])
    else none
  | _ => none

/-- A string on several lines between double quotes. A backslash at the end of a line takes away the
    line break and all blanks and line breaks after it. -/
def multiBasic? : Nat → List Char → Option (List Char × List Char)
  | 0, _ => none
  | _ + 1, [] => none
  | fuel + 1, c :: cs =>
    match closing? '"' (c :: cs) with
    | some done => some done
    | none =>
      if c = '\\' then
        match lineBreak? (skipBlanks cs) with
        | some rest => multiBasic? fuel (skipLines rest)
        | none => (escape? cs).bind fun (e, rest) => before e (multiBasic? fuel rest)
      else if c = '\n' || isPlain c then before c (multiBasic? fuel cs)
      else if c = '\r' && cs.head? == some '\n' then before c (multiBasic? fuel cs)
      else none

/-- A string on one line between single quotes. -/
def literal? : List Char → Option (List Char × List Char)
  | [] => none
  | c :: cs => if c = '\'' then some ([], cs) else if isPlain c then before c (literal? cs) else none

/-- A string on several lines between single quotes. -/
def multiLiteral? : List Char → Option (List Char × List Char)
  | [] => none
  | c :: cs =>
    match closing? '\'' (c :: cs) with
    | some done => some done
    | none =>
      if c = '\n' || isPlain c then before c (multiLiteral? cs)
      else if c = '\r' && cs.head? == some '\n' then before c (multiLiteral? cs)
      else none

/-- A string on several lines does not begin with the line break behind its delimiter. -/
def dropBreak (cs : List Char) : List Char := (lineBreak? cs).getD cs

/-- A string on one line with its delimiters. -/
def lineString? : List Char → Option (List Char × List Char)
  | '"' :: cs => basic? (cs.length + 1) cs
  | '\'' :: cs => literal? cs
  | _ => none

/-- A string of any style with its delimiters. -/
def string? : List Char → Option (List Char × List Char)
  | '"' :: '"' :: '"' :: cs => multiBasic? (cs.length + 1) (dropBreak cs)
  | '\'' :: '\'' :: '\'' :: cs => multiLiteral? (dropBreak cs)
  | cs => lineString? cs

/-! ### Writing -/

inductive Style where
  | basic
  | literal
  | multiBasic
  | multiLiteral
deriving DecidableEq, Repr

/-- The longest row of a character. -/
def longestRow (c : Char) : Nat → Nat → List Char → Nat
  | row, longest, [] => max row longest
  | row, longest, d :: ds => if d = c then longestRow c (row + 1) longest ds else longestRow c 0 (max row longest) ds

/-- Controls other than tab and line feed must be escaped. -/
def isControl (c : Char) : Bool := !isPlain c && c != '\n'

/-- The first style that needs no escape for a string; if every style does, double quotes. -/
def Style.of (s : List Char) : Style :=
  let controls := s.any isControl
  let lines := s.contains '\n'
  let backslash := s.contains '\\'
  let quotes := longestRow '"' 0 0 s
  let apostrophes := longestRow '\'' 0 0 s
  if !controls && !backslash && quotes == 0 && !lines then .basic
  else if !controls && apostrophes == 0 && !lines then .literal
  else if !controls && !backslash && quotes ≤ 2 then .multiBasic
  else if !controls && apostrophes ≤ 2 then .multiLiteral
  else if lines then .multiBasic
  else .basic

def hexDigit (n : Nat) : Char := if n < 10 then Char.ofNat (48 + n) else Char.ofNat (55 + n)

/-- What stands for a character between double quotes, apart from quotes. -/
def escaped (c : Char) : List Char :=
  if c = '\x08' then ['\\', 'b']
  else if c = '\t' then ['\\', 't']
  else if c = '\n' then ['\\', 'n']
  else if c = '\x0c' then ['\\', 'f']
  else if c = '\r' then ['\\', 'r']
  else if c = '\\' then ['\\', '\\']
  else if isPlain c then [c]
  else ['\\', 'u', '0', '0', hexDigit (c.toNat / 16), hexDigit (c.toNat % 16)]

/-- The inside of a string between double quotes. `room` quotes may stand in a row, `row` of them stand
    just before; line breaks stand for themselves in a string on several lines. -/
def escapedAll (multi : Bool) (room : Nat) : Nat → List Char → List Char
  | _, [] => []
  | row, c :: cs =>
    if c = '"' then
      if row < room then c :: escapedAll multi room (row + 1) cs
      else '\\' :: c :: escapedAll multi room 0 cs
    else if multi && c == '\n' then c :: escapedAll multi room 0 cs
    else escaped c ++ escapedAll multi room 0 cs

/-- A string in a style. One that has several lines begins on a line of its own. -/
def Style.write (style : Style) (s : List Char) : List Char :=
  let start := if s.contains '\n' then ['\n'] else []
  match style with
  | .basic => '"' :: escapedAll false 0 0 s ++ ['"']
  | .literal => '\'' :: s ++ ['\'']
  | .multiBasic => ['"', '"', '"'] ++ start ++ escapedAll true 2 0 s ++ ['"', '"', '"']
  | .multiLiteral => ['\'', '\'', '\''] ++ start ++ s ++ ['\'', '\'', '\'']

/-- A string in the plainest style that can hold it. -/
def quoted (s : List Char) : List Char := (Style.of s).write s

example : quoted "it's".toList = "\"it's\"".toList := by decide +kernel
example : quoted "a\"b".toList = "'a\"b'".toList := by decide +kernel
example : quoted "a\n".toList = "\"\"\"\na\n\"\"\"".toList := by decide +kernel
example : quoted "\x01'".toList = "\"\\u0001'\"".toList := by decide +kernel

end PromptForm.Toml
