import PromptForm.Condition.Reader

/-! # Writing conditions

A formula is written in two steps. Its tokens stand in an order that the formula and the notation settle, with
parentheses only where an operator would otherwise take something else for its operand (`Formula.tokens`). The
spelling of a token is partly free: functions have any letter case, texts either quote, and blanks may stand before
every token and at the end (`Spelled`). What a condition looks like is both together (`Written`). -/

namespace PromptForm
namespace Condition

/-! ### Signs -/

/-- The signs of the two notations. -/
inductive Mark where
  | opening
  | closing
  | comma
  | negation
  | conjunction
  | disjunction
  | comparison (op : Comparison)
  /-- What a formula begins with. -/
  | formula
deriving DecidableEq

/-- Equality and inequality are written differently in the two notations. -/
def comparisonSign : Dialect → Comparison → List Char
  | .formula, .eq => ['=']
  | .formula, .ne => ['<', '>']
  | .expression, .eq => ['=', '=']
  | .expression, .ne => ['!', '=']
  | _, .lt => ['<']
  | _, .le => ['<', '=']
  | _, .gt => ['>']
  | _, .ge => ['>', '=']

def Mark.sign (dialect : Dialect) : Mark → List Char
  | .opening => ['(']
  | .closing => [')']
  | .comma => [',']
  | .negation => ['!']
  | .conjunction => ['&', '&']
  | .disjunction => ['|', '|']
  | .comparison op => comparisonSign dialect op
  | .formula => ['=']

/-- What is written as a call. -/
inductive Operation where
  | conjunction
  | disjunction
  | negation
  | blank
deriving DecidableEq

/-- The name of an operation in capitals. -/
def Operation.word : Operation → String
  | .conjunction => "AND"
  | .disjunction => "OR"
  | .negation => "NOT"
  | .blank => "ISBLANK"

/-- What a condition consists of. -/
inductive Token where
  | mark (m : Mark)
  | call (operation : Operation)
  | name (path : String)
  | literal (v : Value)

/-! ### Words, numbers and texts -/

/-- At least one digit. -/
def IsDigits (cs : List Char) : Prop := cs ≠ [] ∧ ∀ c ∈ cs, c.isDigit = true

/-- Digits, and perhaps a point with digits after it. -/
inductive IsDecimal : List Char → Prop where
  | whole {digits} (h : IsDigits digits) : IsDecimal digits
  | point {digits fraction} (h : IsDigits digits) (hf : IsDigits fraction) : IsDecimal (digits ++ '.' :: fraction)

/-- A decimal, perhaps with a minus sign. -/
def IsNumeral (cs : List Char) : Prop := IsDecimal cs ∨ ∃ digits, cs = '-' :: digits ∧ IsDecimal digits

/-- A letter or underscore, then letters, numbers, underscores and dots. -/
def IsWord (cs : List Char) : Prop :=
  ∃ c rest, cs = c :: rest ∧ (Text.isAlphabetic c || c == '_') = true ∧ ∀ x ∈ rest, Reader.isNamePart x = true

/-- The words that are no names. The formula notation knows them in any letter case. -/
def IsKeyword : Dialect → String → Prop
  | .formula, word => Text.asciiLower word ∈ ["true", "false"]
  | .expression, word => word ∈ ["true", "false", "null"]

/-- A name: a word that is no keyword, does not end in a dot and has no two dots in a row. -/
structure IsName (dialect : Dialect) (path : String) : Prop where
  word : IsWord path.toList
  last : path.toList.getLast? ≠ some '.'
  dots : ¬['.', '.'] <:+: path.toList
  keyword : ¬IsKeyword dialect path

/-- A text with a backslash before each quote and each backslash. -/
def escaped (quote : Char) : List Char → List Char
  | [] => []
  | c :: cs => (if c = quote ∨ c = '\\' then ['\\', c] else [c]) ++ escaped quote cs

def quoted (quote : Char) (cs : List Char) : List Char := quote :: escaped quote cs ++ [quote]

def truthWord (b : Bool) : List Char := if b then ['t', 'r', 'u', 'e'] else ['f', 'a', 'l', 's', 'e']

/-- The ways to spell a token. -/
inductive Spelling (dialect : Dialect) : Token → List Char → Prop where
  | mark (m : Mark) : Spelling dialect (.mark m) (m.sign dialect)
  | call (operation : Operation) (cs : List Char) (h : cs.map Char.toUpper = operation.word.toList) :
      Spelling dialect (.call operation) cs
  | name {path : String} (h : IsWord path.toList) : Spelling dialect (.name path) path.toList
  | truth (b : Bool) : Spelling dialect (.literal (.bool b)) (truthWord b)
  | truthAnyCase {b : Bool} (cs : List Char) (hd : dialect = .formula) (h : cs.map Char.toLower = truthWord b) :
      Spelling dialect (.literal (.bool b)) cs
  | text {quote : Char} (hquote : quote = '"' ∨ quote = '\'') (s : String) :
      Spelling dialect (.literal (.string s)) (quoted quote s.toList)
  | number {cs : List Char} {x : Float} (h : IsNumeral cs) (hx : Number.float? (String.ofList cs) = some x)
      (hfinite : x.isFinite = true) : Spelling dialect (.literal (.float x)) cs

/-- A text that spells tokens, with any blanks before each of them, and then goes on. -/
inductive Spelled (dialect : Dialect) : List Token → List Char → List Char → Prop where
  | nil (rest : List Char) : Spelled dialect [] rest rest
  | cons {token tokens spelling cs rest} (blanks : List Char) (hblanks : ∀ c ∈ blanks, Text.isBlank c = true)
      (htoken : Spelling dialect token spelling) (htokens : Spelled dialect tokens cs rest) :
      Spelled dialect (token :: tokens) (blanks ++ (spelling ++ cs)) rest

end Condition

/-! ### Tokens of a formula -/

namespace Formula
open Condition

/-- What is written infix: in an expression, a conjunction or disjunction of several formulas. -/
def isInfix : Dialect → List Formula → Bool
  | .expression, _ :: _ :: _ => true
  | _, _ => false

/-- How tightly the outermost operator of a formula binds: disjunction, conjunction, negation, comparison, and above
    them what needs no parentheses anywhere. -/
def strength (dialect : Dialect) : Formula → Nat
  | .disjunction items => if isInfix dialect items then 0 else 4
  | .conjunction items => if isInfix dialect items then 1 else 4
  | .negation _ => if dialect = .expression then 2 else 4
  | .compare _ _ _ => 3
  | .literal _ | .name _ | .blank _ => 4

/-- The tokens of an operand, in parentheses if it binds less tightly than its place asks for. -/
def enclosed (dialect : Dialect) (least : Nat) (f : Formula) (tokens : List Token) : List Token :=
  if least ≤ f.strength dialect then tokens else .mark .opening :: (tokens ++ [.mark .closing])

/-- The tokens of a call, given those of its arguments. -/
def called (operation : Operation) (arguments : List Token) : List Token :=
  .call operation :: .mark .opening :: (arguments ++ [.mark .closing])

mutual
/-- The tokens of a formula in a notation. -/
def tokens (dialect : Dialect) : Formula → List Token
  | .literal v => [.literal v]
  | .name path => [.name path]
  | .negation f =>
    match dialect with
    | .expression => .mark .negation :: enclosed dialect 2 f (tokens dialect f)
    | .formula => called .negation (enclosed dialect 0 f (tokens dialect f))
  | .blank f => called .blank (enclosed dialect 0 f (tokens dialect f))
  | .conjunction items =>
    if isInfix dialect items then separated dialect .conjunction 2 items
    else called .conjunction (separated dialect .comma 0 items)
  | .disjunction items =>
    if isInfix dialect items then separated dialect .disjunction 1 items
    else called .disjunction (separated dialect .comma 0 items)
  | .compare op left right =>
    enclosed dialect 4 left (tokens dialect left) ++ .mark (.comparison op) ::
      enclosed dialect 4 right (tokens dialect right)
termination_by structural f => f
/-- The tokens of formulas with a sign between them. -/
def separated (dialect : Dialect) (separator : Mark) (least : Nat) : List Formula → List Token
  | [] => []
  | f :: fs =>
    enclosed dialect least f (tokens dialect f) ++
      (if fs.isEmpty then [] else .mark separator :: separated dialect separator least fs)
termination_by structural fs => fs
end

mutual
/-- No conjunction and no disjunction is one of nothing. -/
def Filled : Formula → Prop
  | .literal _ | .name _ => True
  | .negation f | .blank f => Filled f
  | .conjunction items | .disjunction items => items ≠ [] ∧ AllFilled items
  | .compare _ left right => Filled left ∧ Filled right
termination_by structural f => f
def AllFilled : List Formula → Prop
  | [] => True
  | f :: fs => Filled f ∧ AllFilled fs
termination_by structural fs => fs
end

end Formula

namespace Condition

/-- The tokens of a whole condition. -/
def tokens (dialect : Dialect) (f : Formula) : List Token :=
  match dialect with
  | .formula => .mark .formula :: f.tokens dialect
  | .expression => f.tokens dialect

/-- A text that writes a formula in a notation. -/
def Written (dialect : Dialect) (f : Formula) (cs : List Char) : Prop :=
  ∃ blanks, (∀ c ∈ blanks, Text.isBlank c = true) ∧ Spelled dialect (tokens dialect f) cs blanks

end Condition
end PromptForm
