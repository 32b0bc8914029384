import PromptForm.Value.Basic
import PromptForm.Number.Reading

/-!
# Reading data text

A reader for JSON. Each part takes the characters before it and gives what it read with the rest. It refuses text after the value, control characters inside strings, escapes of half a
surrogate pair, numbers beyond the floats and containers nested deeper than 127. Whole numbers that fit
in 64 bits stay integers; every other number, `-0` among them, becomes a float.
-/

namespace PromptForm.Value

namespace Reader

/-- Containers that may stand inside each other. -/
def maxNesting : Nat := 127

def isSpace (c : Char) : Bool := c == ' ' || c == '\n' || c == '\t' || c == '\r'

def skipSpace (cs : List Char) : List Char := cs.dropWhile isSpace

def hexDigit? (c : Char) : Option Nat :=
  if c.isDigit then some (c.toNat - 48)
  else if 'a' ≤ c ∧ c ≤ 'f' then some (c.toNat - 87)
  else if 'A' ≤ c ∧ c ≤ 'F' then some (c.toNat - 55)
  else none

/-- Four hexadecimal digits. -/
def hexFour? : List Char → Option (Nat × List Char)
  | a :: b :: c :: d :: cs => do
    let a ← hexDigit? a
    let b ← hexDigit? b
    let c ← hexDigit? c
    let d ← hexDigit? d
    some (((a * 16 + b) * 16 + c) * 16 + d, cs)
  | _ => none

/-- The character of an escape, after the backslash. -/
def escape? : List Char → Option (Char × List Char)
  | '"' :: cs => some ('"', cs)
  | '\\' :: cs => some ('\\', cs)
  | '/' :: cs => some ('/', cs)
  | 'b' :: cs => some ('\x08', cs)
  | 'f' :: cs => some ('\x0c', cs)
  | 'n' :: cs => some ('\n', cs)
  | 'r' :: cs => some ('\r', cs)
  | 't' :: cs => some ('\t', cs)
  | 'u' :: cs => do
    let (n, cs) ← hexFour? cs
    if 0xD800 ≤ n ∧ n < 0xDC00 then
      match cs with
      | '\\' :: 'u' :: cs => do
        let (m, cs) ← hexFour? cs
        if 0xDC00 ≤ m ∧ m < 0xE000 then
          some (Char.ofNat (0x10000 + (n - 0xD800) * 0x400 + (m - 0xDC00)), cs)
        else none
      | _ => none
    else if 0xDC00 ≤ n ∧ n < 0xE000 then none
    else some (Char.ofNat n, cs)
  | _ => none

/-- The rest of a string after its opening quote; `fuel` bounds the characters. -/
def stringBody : Nat → List Char → List Char → Option (String × List Char)
  | 0, _, _ => none
  | _ + 1, _, [] => none
  | fuel + 1, acc, c :: cs =>
    if c = '"' then some (String.ofList acc.reverse, cs)
    else if c = '\\' then
      match escape? cs with
      | some (e, rest) => stringBody fuel (e :: acc) rest
      | none => none
    else if c.toNat < 0x20 then none
    else stringBody fuel (c :: acc) cs

def string? (cs : List Char) : Option (String × List Char) := stringBody (cs.length + 1) [] cs

/-- The leading digits whose value fits in 64 bits, their value, and the rest. -/
def significand (n : Nat) : List Char → Nat × Nat × List Char
  | [] => (n, 0, [])
  | c :: cs =>
    if c.isDigit then
      let n' := 10 * n + (c.toNat - 48)
      if n' < Number.twoTo 64 then
        let (m, used, rest) := significand n' cs
        (m, used + 1, rest)
      else (n, 0, c :: cs)
    else (n, 0, c :: cs)

/-- An exponent, if one stands here: its value, zero if there is none. -/
def exponent? (cs : List Char) : Option (Int × List Char) :=
  match cs with
  | e :: rest =>
    if e = 'e' ∨ e = 'E' then
      let (negative, rest) := Number.takeSign rest
      let digits := rest.takeWhile Char.isDigit
      if digits.isEmpty then none
      else
        let n : Int := Number.natOfDigits digits
        some (if negative then -n else n, rest.dropWhile Char.isDigit)
    else some (0, cs)
  | [] => some (0, [])

/-- The float of a significand and a power of ten. -/
def floatOf (negative : Bool) (n : Nat) (exponent : Int) (rest : List Char) : Option (Number × List Char) := do
  let x ← Number.scaled? n exponent
  some (.float (if negative then -x else x), rest)

/-- A number after its sign. -/
def unsigned? (negative : Bool) (cs : List Char) : Option (Number × List Char) := do
  let whole := cs.takeWhile Char.isDigit
  let rest := cs.dropWhile Char.isDigit
  if whole.isEmpty then none
  else if whole.head? == some '0' && whole.length > 1 then none
  else
    let (n, used, _) := significand 0 whole
    let dropped : Int := whole.length - used
    match rest with
    | '.' :: tail =>
      let digits := tail.takeWhile Char.isDigit
      if digits.isEmpty then none
      else
        let (m, taken, _) := significand n digits
        let (e, rest) ← exponent? (tail.dropWhile Char.isDigit)
        floatOf negative m (dropped - taken + e) rest
    | e :: _ =>
      if e = 'e' ∨ e = 'E' then
        let (e, rest) ← exponent? rest
        floatOf negative n (dropped + e) rest
      else wholeNumber n dropped rest
    | [] => wholeNumber n dropped rest
where
  /-- A number without fraction and exponent. -/
  wholeNumber (n : Nat) (dropped : Int) (rest : List Char) : Option (Number × List Char) :=
    if dropped ≠ 0 then floatOf negative n dropped rest
    else if negative then
      if n = 0 ∨ Number.twoTo 63 < n then some (.float (-(Float.ofNat n)), rest) else some (.int (-n), rest)
    else some (.int n, rest)

def number? : List Char → Option (Number × List Char)
  | '-' :: cs => unsigned? true cs
  | cs => unsigned? false cs

mutual
/-- A value; `fuel` bounds the steps and `room` the containers inside. -/
def value? : Nat → Nat → List Char → Option (Value × List Char)
  | 0, _, _ => none
  | fuel + 1, room, cs =>
    match skipSpace cs with
    | 'n' :: 'u' :: 'l' :: 'l' :: cs => some (.null, cs)
    | 't' :: 'r' :: 'u' :: 'e' :: cs => some (.bool true, cs)
    | 'f' :: 'a' :: 'l' :: 's' :: 'e' :: cs => some (.bool false, cs)
    | '"' :: cs => (string? cs).map fun (s, cs) => (.string s, cs)
    | '[' :: cs =>
      match room with
      | 0 => none
      | room + 1 =>
        match skipSpace cs with
        | ']' :: cs => some (.list [], cs)
        | cs => (items? fuel room [] cs).map fun (vs, cs) => (.list vs, cs)
    | '\x7b' :: cs =>
      match room with
      | 0 => none
      | room + 1 =>
        match skipSpace cs with
        | '\x7d' :: cs => some (.object [], cs)
        | cs => (fields? fuel room [] cs).map fun (fs, cs) => (.object fs, cs)
    | cs => (number? cs).map fun (n, cs) => (.number n, cs)

/-- Entries of a list up to its end, at least one. -/
def items? : Nat → Nat → List Value → List Char → Option ((List Value) × List Char)
  | 0, _, _, _ => none
  | fuel + 1, room, acc, cs =>
    match value? fuel room cs with
    | none => none
    | some (v, cs) =>
      match skipSpace cs with
      | ',' :: cs => items? fuel room (v :: acc) cs
      | ']' :: cs => some ((v :: acc).reverse, cs)
      | _ => none

/-- Fields of an object up to its end, at least one. -/
def fields? : Nat → Nat → Fields → List Char → Option (Fields × List Char)
  | 0, _, _, _ => none
  | fuel + 1, room, acc, cs =>
    match skipSpace cs with
    | '"' :: cs =>
      match string? cs with
      | none => none
      | some (key, cs) =>
        match skipSpace cs with
        | ':' :: cs =>
          match value? fuel room cs with
          | none => none
          | some (v, cs) =>
            let acc := Fields.insert key v acc
            match skipSpace cs with
            | ',' :: cs => fields? fuel room acc cs
            | '\x7d' :: cs => some (acc, cs)
            | _ => none
        | _ => none
    | _ => none
end

end Reader

/-- The value that a whole text writes. -/
def ofText? (s : String) : Option Value :=
  match Reader.value? (2 * s.toList.length + 2) Reader.maxNesting s.toList with
  | some (v, rest) => if (Reader.skipSpace rest).isEmpty then some v else none
  | none => none

end PromptForm.Value
