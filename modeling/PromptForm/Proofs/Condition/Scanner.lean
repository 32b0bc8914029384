import PromptForm.Condition.Reader

/-! # Scanning by byte positions

The readers of conditions take characters from the front of a text. A scanner keeps a byte position in the whole body and
moves it by hand instead: by the bytes of a character, of a token, of what a literal takes, or to a place found before.
Wherever it looks at the body it takes a slice that begins at a position, and it halts where such a slice is out of range or
would cut a character (`Halt.outside`). It remembers all positions that it has stood at. -/

namespace PromptForm

namespace Text

/-- What is left of a text at a byte position, if this is a position of the text and not inside a character. -/
def from? : List Char → Nat → Option (List Char)
  | cs, 0 => some cs
  | [], _ + 1 => none
  | c :: cs, n + 1 => if c.utf8Size ≤ n + 1 then from? cs (n + 1 - c.utf8Size) else none

/-- So many bytes from the front of a text. -/
def upTo? : List Char → Nat → Option (List Char)
  | _, 0 => some []
  | [], _ + 1 => none
  | c :: cs, n + 1 => if c.utf8Size ≤ n + 1 then (upTo? cs (n + 1 - c.utf8Size)).map (c :: ·) else none

def between? (cs : List Char) (start stop : Nat) : Option (List Char) :=
  if start ≤ stop then (from? cs start).bind fun tail => upTo? tail (stop - start) else none

end Text

namespace Condition

/-- Where a scanner stands, and where it has stood before, last first. -/
structure Place where
  pos : Nat := 0
  past : List Nat := []

def Place.positions (place : Place) : List Nat := (place.pos :: place.past).reverse

/-- What ends a scan early. -/
inductive Halt where
  /-- A slice is out of range, or begins or ends inside a character. -/
  | outside
  /-- A loop takes more rounds than there are characters. -/
  | endless
  /-- The text is no condition, which shows at a position. -/
  | fault (pos : Nat) (fault : ConditionFault)

abbrev Scan := EStateM Halt Place

namespace Scanner

def position : Scan Nat := do
  return (← get).pos

def moveTo (pos : Nat) : Scan Unit := modify fun place => ⟨pos, place.pos :: place.past⟩

def advance (bytes : Nat) : Scan Unit := do
  moveTo ((← position) + bytes)

/-- The text is no condition, which shows where the scanner stands. -/
def fail {α : Type} (fault : ConditionFault) : Scan α := do
  throw (.fault (← position) fault)

section Body
variable (body : List Char)

def slice (start : Nat) : Scan (List Char) :=
  match Text.from? body start with
  | some cs => return cs
  | none => throw .outside

def sliceTo (start stop : Nat) : Scan (List Char) :=
  match Text.between? body start stop with
  | some cs => return cs
  | none => throw .outside

def ahead : Scan (List Char) := do
  slice body (← position)

/-- More rounds than any loop takes. -/
def maxRounds : Nat := body.length + 1

def skipRounds : Nat → Scan Unit
  | 0 => throw .endless
  | rounds + 1 => do
    match ← ahead body with
    | c :: _ => if Text.isBlank c then do
        advance c.utf8Size
        skipRounds rounds
    | [] => return

def skipBlanks : Scan Unit := skipRounds body (maxRounds body)

/-- What is ahead behind blanks. -/
def rest : Scan (List Char) := do
  skipBlanks body
  ahead body

def peek : Scan (Option Char) := do
  return (← rest body).head?

def eat (token : List Char) : Scan Bool := do
  if (Text.afterPrefix? token (← rest body)).isSome then
    advance (Text.byteSize token)
    return true
  else return false

def expect (token : Char) : Scan Unit := do
  if ← eat body [token] then return else fail (.expected (String.singleton token))

def chain (token : List Char) (item : Scan Formula) : Nat → Scan (List Formula)
  | 0 => throw .endless
  | rounds + 1 => do
    let f ← item
    if ← eat body token then return f :: (← chain token item rounds) else return [f]

/-- The operators of two characters. -/
def longOperators : Dialect → List (List Char × Comparison)
  | .formula => [(['<', '>'], .ne), (['<', '='], .le), (['>', '='], .ge)]
  | .expression => [(['=', '='], .eq), (['!', '='], .ne), (['<', '='], .le), (['>', '='], .ge)]

def eatFirst : List (List Char × Comparison) → Scan (Option Comparison)
  | [] => return none
  | (token, op) :: operators => do
    if ← eat body token then return some op else eatFirst operators

variable (dialect : Dialect)

def shortOperator : Scan (Option Comparison) := do
  match ← peek body, dialect with
  | some '<', _ => do
    advance 1
    return some .lt
  | some '>', _ => do
    advance 1
    return some .gt
  | some '=', .formula => do
    advance 1
    return some .eq
  | some '=', .expression => fail .singleEquals
  | _, _ => return none

def comparison : Scan (Option Comparison) := do
  match ← eatFirst body (longOperators dialect) with
  | some op => return some op
  | none => shortOperator body dialect

def comparand (operand : Scan Formula) : Scan Formula := do
  let left ← operand
  match ← comparison body dialect with
  | none => return left
  | some op => return .compare op left (← operand)

/-- Whether a negation sign stands behind blanks. -/
def isNegated : Dialect → Scan Bool
  | .formula => return false
  | .expression => do
    let cs ← rest body
    return (Text.afterPrefix? ['!'] cs).isSome && (Text.afterPrefix? ['!', '='] cs).isNone

def factor (operand : Scan Formula) : Nat → Scan Formula
  | 0 => throw .endless
  | rounds + 1 => do
    if ← isNegated body dialect then
      advance 1
      return .negation (← factor operand rounds)
    else comparand body dialect operand

def formula (operand : Scan Formula) : Scan Formula :=
  match dialect with
  | .formula => factor body .formula operand (maxRounds body)
  | .expression => do
    let terms := Reader.joined .conjunction <$>
      chain body ['&', '&'] (factor body .expression operand (maxRounds body)) (maxRounds body)
    Reader.joined .disjunction <$> chain body ['|', '|'] terms (maxRounds body)

/-- The body of a text literal up to its quote, and the bytes up to behind the quote, counted from `index`. -/
def closing? (quote : Char) : List Char → Nat → Option (List Char × Nat)
  | [], _ => none
  | '\\' :: [], _ => none
  | '\\' :: c :: cs, index =>
    (closing? quote cs (index + '\\'.utf8Size + c.utf8Size)).map fun (text, stop) => (c :: text, stop)
  | c :: cs, index =>
    if c = quote then some ([], index + c.utf8Size)
    else (closing? quote cs (index + c.utf8Size)).map fun (text, stop) => (c :: text, stop)

def textLiteral (quote : Char) : Scan Formula := do
  advance quote.utf8Size
  match closing? quote (← ahead body) 0 with
  | some (text, stop) => do
    advance stop
    return .literal (.string (String.ofList text))
  | none => do
    moveTo (Text.byteSize body)
    fail .unterminatedText

/-- The minus sign, digits and points at the front of a text. -/
def numeral : List Char → List Char
  | '-' :: cs => '-' :: cs.takeWhile Reader.isNumberPart
  | cs => cs.takeWhile Reader.isNumberPart

def numberLiteral : Scan Formula := do
  let start ← position
  let cs ← ahead body
  let stop := start + Text.byteSize (numeral cs)
  let raw := String.ofList (← sliceTo body start stop)
  match Number.float? raw with
  | none => fail (.invalidNumber raw)
  | some x => do
    moveTo stop
    if x.isFinite then return .literal (.float x) else fail (.invalidNumber raw)

def arguments (argument : Scan Formula) : Nat → Scan (List Formula)
  | 0 => throw .endless
  | rounds + 1 => do
    let f ← argument
    if ← eat body [')'] then return [f]
    else do
      expect body ','
      return f :: (← arguments argument rounds)

def callArguments (argument : Scan Formula) : Scan (List Formula) := do
  if ← eat body [')'] then return [] else arguments body argument (maxRounds body)

/-- The call of a function whose name began at a position. What is wrong with the call shows there. -/
def call (argument : Scan Formula) (name : String) (start : Nat) : Scan Formula := do
  expect body '('
  match Reader.call name (← callArguments body argument) with
  | .ok f => return f
  | .error fault => throw (.fault start fault)

def word (argument : Scan Formula) : Scan Formula := do
  let start ← position
  let cs ← ahead body
  let stop := start + Text.byteSize (cs.takeWhile Reader.isNamePart)
  let chars ← sliceTo body start stop
  moveTo stop
  if (← peek body) = some '(' then call body argument (String.ofList chars) start
  else
    match Reader.keyword? dialect (String.ofList chars) with
    | some v => return .literal v
    | none =>
      if Reader.isWellFormedName chars then return .name (String.ofList chars)
      else fail (.invalidName (String.ofList chars))

def operand : Nat → Scan Formula
  | 0 => throw .endless
  | nesting + 1 => do
    match ← peek body with
    | none => fail .endOfText
    | some c =>
      if c = '(' then do
        advance 1
        let f ← formula body dialect (operand nesting)
        expect body ')'
        return f
      else if c = '"' ∨ c = '\'' then textLiteral body c
      else if c.isDigit || c == '-' || c == '.' then numberLiteral body
      else if Text.isAlphabetic c || c == '_' then word body dialect (formula body dialect (operand nesting))
      else fail (.unexpected c)

def whole : Scan Formula := do
  let f ← formula body dialect (operand body dialect (maxRounds body))
  match ← peek body with
  | none => return f
  | some c => fail (.unexpected c)

end Body
end Scanner

/-- What a scan of a body gives, and where the scanner ends up. -/
def scan (dialect : Dialect) (body : List Char) : EStateM.Result Halt Place Formula :=
  Scanner.whole body dialect {}

end Condition
end PromptForm
