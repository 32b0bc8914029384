import PromptForm.Condition.Basic
import PromptForm.Malformed
import PromptForm.Text.Letter

/-!
# Reading conditions

Two notations share one grammar. A leading `=` starts a formula, in which conjunction, disjunction and
negation are functions and `=` and `<>` compare; any other text is a boolean expression with `||`, `&&`,
`!`, `==` and `!=`. A reader takes characters from the front and keeps the rest; where it fails it keeps
the rest too, which says how far it came.
-/

namespace PromptForm

/-- The two notations. -/
inductive Dialect where
  | formula
  | expression
deriving DecidableEq, Repr

namespace Condition

/-- A fault and what was left to read at it. -/
structure Failure where
  rest : List Char
  fault : ConditionFault
deriving DecidableEq, Repr

/-- What a reader gives: its result and the rest, or a failure. -/
abbrev Step (α : Type) := Except Failure (α × List Char)

namespace Reader

def skip (cs : List Char) : List Char := cs.dropWhile Text.isBlank

/-- What follows a token after blanks, if it stands there. -/
def eat? (token : List Char) (cs : List Char) : Option (List Char) := Text.afterPrefix? token (skip cs)

def expect (token : Char) (cs : List Char) : Except Failure (List Char) :=
  match eat? [token] cs with
  | some rest => .ok rest
  | none => .error ⟨skip cs, .expected (String.singleton token)⟩

/-- The items of a chain joined by a token, at least one. -/
def chain (token : List Char) (item : List Char → Step Formula) : Nat → List Char → Step (List Formula)
  | 0, cs => .error ⟨cs, .endOfText⟩
  | fuel + 1, cs =>
    match item cs with
    | .error e => .error e
    | .ok (f, rest) =>
      match eat? token rest with
      | none => .ok ([f], rest)
      | some rest =>
        match chain token item fuel rest with
        | .error e => .error e
        | .ok (fs, rest) => .ok (f :: fs, rest)

/-- A chain of one item is that item. -/
def joined (join : List Formula → Formula) : List Formula → Formula
  | [f] => f
  | fs => join fs

/-- A comparison operator, if one stands here. -/
def comparison? (dialect : Dialect) (cs : List Char) : Step (Option Comparison) :=
  match dialect, skip cs with
  | .formula, '<' :: '>' :: rest => .ok (some .ne, rest)
  | .expression, '=' :: '=' :: rest => .ok (some .eq, rest)
  | .expression, '!' :: '=' :: rest => .ok (some .ne, rest)
  | _, '<' :: '=' :: rest => .ok (some .le, rest)
  | _, '>' :: '=' :: rest => .ok (some .ge, rest)
  | _, '<' :: rest => .ok (some .lt, rest)
  | _, '>' :: rest => .ok (some .gt, rest)
  | .formula, '=' :: rest => .ok (some .eq, rest)
  | .expression, '=' :: rest => .error ⟨'=' :: rest, .singleEquals⟩
  | _, rest => .ok (none, rest)

/-- One operand, or two with a comparison between them. -/
def comparand (dialect : Dialect) (operand : List Char → Step Formula) (cs : List Char) :
    Step Formula :=
  match operand cs with
  | .error e => .error e
  | .ok (left, rest) =>
    match comparison? dialect rest with
    | .error e => .error e
    | .ok (none, rest) => .ok (left, rest)
    | .ok (some op, rest) =>
      match operand rest with
      | .error e => .error e
      | .ok (right, rest) => .ok (.compare op left right, rest)

/-- What stands behind a negation sign of a boolean expression. -/
def negated? (cs : List Char) : Option (List Char) :=
  match skip cs with
  | '!' :: '=' :: _ => none
  | '!' :: rest => some rest
  | _ => none

/-- Negation signs and a comparison. -/
def factor (dialect : Dialect) (operand : List Char → Step Formula) : Nat → List Char → Step Formula
  | 0, cs => .error ⟨cs, .endOfText⟩
  | fuel + 1, cs =>
    match dialect, negated? cs with
    | .expression, some rest =>
      match factor dialect operand fuel rest with
      | .error e => .error e
      | .ok (f, rest) => .ok (.negation f, rest)
    | _, _ => comparand dialect operand cs

/-- A whole formula over a reader of operands. In the formula notation there are no infix connectives. -/
def formula (dialect : Dialect) (operand : List Char → Step Formula) (cs : List Char) : Step Formula :=
  let fuel := cs.length + 1
  match dialect with
  | .formula => factor .formula operand fuel cs
  | .expression =>
    let factors := chain ['&', '&'] (factor .expression operand fuel) fuel
    let terms := fun cs => (factors cs).map fun (fs, rest) => (joined .conjunction fs, rest)
    (chain ['|', '|'] terms fuel cs).map fun (fs, rest) => (joined .disjunction fs, rest)

/-- The body of a text literal up to its quote. A backslash makes the next character plain. -/
def textBody (quote : Char) : List Char → Option (List Char × List Char)
  | [] => none
  | '\\' :: [] => none
  | '\\' :: c :: cs => (textBody quote cs).map fun (body, rest) => (c :: body, rest)
  | c :: cs =>
    if c = quote then some ([], cs)
    else (textBody quote cs).map fun (body, rest) => (c :: body, rest)

def textLiteral (quote : Char) (cs : List Char) : Step Formula :=
  match textBody quote cs with
  | some (body, rest) => .ok (.literal (.string (String.ofList body)), rest)
  | none => .error ⟨[], .unterminatedText⟩

def isNumberPart (c : Char) : Bool := c.isDigit || c == '.'

/-- A number literal: a minus sign at most at its front, digits and points. -/
def numberLiteral (cs : List Char) : Step Formula :=
  let (sign, body) :=
    match cs with
    | '-' :: tail => (['-'], tail)
    | _ => ([], cs)
  let raw := String.ofList (sign ++ body.takeWhile isNumberPart)
  let rest := body.dropWhile isNumberPart
  -- What is no number fails at its front, and one that is too large behind it.
  match Number.float? raw with
  | none => .error ⟨cs, .invalidNumber raw⟩
  | some x =>
    if x.isFinite then .ok (.literal (.float x), rest) else .error ⟨rest, .invalidNumber raw⟩

def isNamePart (c : Char) : Bool := Text.isAlphanumeric c || c == '_' || c == '.'

/-- A name may not end in a dot nor have two in a row. -/
def isWellFormedName (word : List Char) : Bool :=
  word.getLast? != some '.' && !Text.contains word ['.', '.']

/-- The literal that a word stands for. -/
def keyword? (dialect : Dialect) (word : String) : Option Value :=
  match dialect with
  | .formula =>
    if Text.asciiLower word = "true" then some (.bool true)
    else if Text.asciiLower word = "false" then some (.bool false)
    else none
  | .expression =>
    if word = "true" then some (.bool true)
    else if word = "false" then some (.bool false)
    else if word = "null" then some .null
    else none

/-- The arguments of a call after its parenthesis, up to the closing one. -/
def arguments (argument : List Char → Step Formula) : Nat → List Char → Step (List Formula)
  | 0, cs => .error ⟨cs, .endOfText⟩
  | fuel + 1, cs =>
    match argument cs with
    | .error e => .error e
    | .ok (f, rest) =>
      match eat? [')'] rest with
      | some rest => .ok ([f], rest)
      | none =>
        match expect ',' rest with
        | .error e => .error e
        | .ok rest =>
          match arguments argument fuel rest with
          | .error e => .error e
          | .ok (fs, rest) => .ok (f :: fs, rest)

/-- What a function makes of its arguments. -/
def call (name : String) (args : List Formula) : Except ConditionFault Formula :=
  let upper := Text.asciiUpper name
  if upper = "AND" then
    if args.isEmpty then .error (.noArguments upper) else .ok (.conjunction args)
  else if upper = "OR" then
    if args.isEmpty then .error (.noArguments upper) else .ok (.disjunction args)
  else if upper = "NOT" then
    match args with
    | [arg] => .ok (.negation arg)
    | _ => .error (.notOneArgument upper)
  else if upper = "ISBLANK" then
    match args with
    | [arg] => .ok (.blank arg)
    | _ => .error (.notOneArgument upper)
  else .error (.unknownFunction name)

/-- A word: a call if a parenthesis follows, else a keyword or a name. -/
def word (dialect : Dialect) (argument : List Char → Step Formula) (cs : List Char) : Step Formula :=
  let chars := cs.takeWhile isNamePart
  let text := String.ofList chars
  let rest := skip (cs.dropWhile isNamePart)
  match rest with
  | '(' :: inner =>
    -- Whether a function takes no arguments is not told here but by `call`.
    let args : Step (List Formula) :=
      match eat? [')'] inner with
      | some rest => .ok ([], rest)
      | none => arguments argument (inner.length + 1) inner
    match args with
    | .error e => .error e
    | .ok (args, rest) =>
      match call text args with
      | .ok f => .ok (f, rest)
      | .error fault => .error ⟨cs, fault⟩
  | _ =>
    match keyword? dialect text with
    | some v => .ok (.literal v, rest)
    | none =>
      if isWellFormedName chars then .ok (.name text, rest) else .error ⟨rest, .invalidName text⟩

/-- An operand; `nesting` bounds the parentheses inside each other. -/
def operand (dialect : Dialect) : Nat → List Char → Step Formula
  | 0, cs => .error ⟨cs, .endOfText⟩
  | nesting + 1, cs =>
    match skip cs with
    | [] => .error ⟨[], .endOfText⟩
    | c :: tail =>
      if c = '(' then
        match formula dialect (operand dialect nesting) tail with
        | .error e => .error e
        | .ok (f, rest) =>
          match expect ')' rest with
          | .error e => .error e
          | .ok rest => .ok (f, rest)
      else if c = '"' ∨ c = '\'' then textLiteral c tail
      else if c.isDigit || c == '-' || c == '.' then numberLiteral (c :: tail)
      else if Text.isAlphabetic c || c == '_' then
        word dialect (formula dialect (operand dialect nesting)) (c :: tail)
      else .error ⟨c :: tail, .unexpected c⟩

/-- A formula that takes the whole text. -/
def whole (dialect : Dialect) (body : List Char) : Except Failure Formula :=
  match formula dialect (operand dialect (body.length + 1)) body with
  | .error e => .error e
  | .ok (f, rest) =>
    match skip rest with
    | [] => .ok f
    | c :: tail => .error ⟨c :: tail, .unexpected c⟩

end Reader

/-- The notation of a text and its body, blanks around it removed. -/
def bodyOf (raw : List Char) : Dialect × List Char :=
  match Text.trim raw with
  | '=' :: rest => (.formula, rest)
  | body => (.expression, body)

/-- The byte of `raw` at which a failure in its body lies. -/
def offsetOf (raw : List Char) (failure : Failure) : Nat :=
  (Text.byteSize raw - Text.byteSize (Text.trimStart raw)) +
    (Text.byteSize (Text.trim raw) - Text.byteSize failure.rest)

/-- The condition that a text writes. -/
def ofText (raw : String) : Except Malformed Condition :=
  let (dialect, body) := bodyOf raw.toList
  match Reader.whole dialect body with
  | .ok f => .ok ⟨raw, f⟩
  | .error e => .error ⟨raw, offsetOf raw.toList e, .condition e.fault⟩

/-- The condition of a prop: a boolean, nothing, or a text. -/
def ofValue : Value → Except Malformed Condition
  | .string raw => ofText raw
  | .bool b => .ok ⟨(Value.bool b).text, .literal (.bool b)⟩
  | .null => .ok ⟨Value.text .null, .literal (.bool false)⟩
  | v => .error ⟨v.text, 0, .condition .notText⟩

end Condition
end PromptForm
