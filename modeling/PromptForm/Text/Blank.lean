/-!
# Blank characters and the cutting of text

Blank is the Unicode property White_Space. Trimming removes blanks from the ends only, splitting keeps
every piece (also the empty ones), and the lines of a text are what stands between its newlines.
-/

namespace PromptForm.Text

/-- The property White_Space, 25 characters. -/
def isBlank (c : Char) : Bool :=
  let n := c.toNat
  (9 ≤ n && n ≤ 13) || n == 0x20 || n == 0x85 || n == 0xA0 || n == 0x1680 ||
  (0x2000 ≤ n && n ≤ 0x200A) || n == 0x2028 || n == 0x2029 || n == 0x202F || n == 0x205F || n == 0x3000

def trimStart (cs : List Char) : List Char := cs.dropWhile isBlank

def trimEnd (cs : List Char) : List Char := (cs.reverse.dropWhile isBlank).reverse

def trim (cs : List Char) : List Char := trimEnd (trimStart cs)

/-- A text without blanks at its ends. -/
def trimmed (s : String) : String := String.ofList (trim s.toList)

/-- Nothing but blanks. -/
def allBlank (s : String) : Bool := s.toList.all isBlank

/-- The pieces between the characters of a class: one more than there are such characters. -/
def splitBy (p : Char → Bool) : List Char → List (List Char)
  | [] => [[]]
  | c :: cs =>
    if p c then [] :: splitBy p cs
    else
      match splitBy p cs with
      | [] => [[c]]
      | piece :: pieces => (c :: piece) :: pieces

/-- The pieces between the occurrences of one character. -/
def split (c : Char) (s : String) : List String :=
  (splitBy (· == c) s.toList).map String.ofList

/-- Drops one carriage return at the end. -/
def dropReturn (cs : List Char) : List Char :=
  match cs.reverse with
  | '\r' :: rest => rest.reverse
  | _ => cs

/-- The lines among the pieces between newlines: each piece that a newline ended loses one carriage
    return at its end, and an empty last piece is no line. --/
def linesOf : List (List Char) → List (List Char)
  | [] => []
  | [last] => if last.isEmpty then [] else [last]
  | piece :: pieces => dropReturn piece :: linesOf pieces

def lines (cs : List Char) : List (List Char) := linesOf (splitBy (· == '\n') cs)

/-- The ASCII capitals in lower case. -/
def asciiLower (s : String) : String := String.ofList (s.toList.map Char.toLower)

/-- The ASCII small letters as capitals. -/
def asciiUpper (s : String) : String := String.ofList (s.toList.map Char.toUpper)

/-- Bytes that the characters take in UTF-8. -/
def byteSize (cs : List Char) : Nat := cs.foldl (fun n c => n + c.utf8Size) 0

/-- The parts of a comma list: trimmed, blank parts left out. -/
def commaParts (s : String) : List String :=
  ((splitBy (· == ',') s.toList).map trim).filterMap fun part =>
    if part.isEmpty then none else some (String.ofList part)

/-- What follows a leading text, if it leads. -/
def afterPrefix? : List Char → List Char → Option (List Char)
  | [], cs => some cs
  | _ :: _, [] => none
  | p :: ps, c :: cs => if p = c then afterPrefix? ps cs else none

/-- The occurrence of one text inside another. -/
def contains (cs needle : List Char) : Bool :=
  match cs with
  | [] => needle.isEmpty
  | _ :: rest => (afterPrefix? needle cs).isSome || contains rest needle

example : split ',' "a,,b" = ["a", "", "b"] := by decide +kernel
example : (lines "a\r\n\nb\r".toList).map String.ofList = ["a", "", "b\r"] := by decide +kernel
example : commaParts " a, ,b c," = ["a", "b c"] := by decide +kernel

end PromptForm.Text
