import PromptForm.Pattern.Basic
import PromptForm.Value.Reader

/-!
# Reading patterns

The grammar of patterns: alternatives of sequences of repeated atoms, where an atom is a character, a
class, an anchor or a group. Look-around and back references are refused, and so are patterns that are nested
too deep or give two groups one name. Marks such as `(?i)` change how the rest of their group is read.
-/

namespace PromptForm.Pattern

/-- How what follows is read. -/
structure Marks where
  anyCase : Bool := false
  multiLine : Bool := false
  dotAll : Bool := false
  /-- A carriage return ends a line too. -/
  returns : Bool := false
  /-- Blanks and comments between items do not count. -/
  verbose : Bool := false
  /-- Classes go beyond ASCII. -/
  unicode : Bool := true
deriving DecidableEq, Repr

namespace Reader

/-- Drops blanks and comments, from inside of a comment or from outside; a comment ends with its line. -/
def dropBlank (comment : Bool) : List Char → List Char
  | [] => []
  | c :: cs =>
    if comment then dropBlank (c != '\n') cs
    else if Text.isBlank c then dropBlank false cs
    else if c = '#' then dropBlank true cs
    else c :: cs

/-- Drops blanks and comments where they do not count. -/
def skip (marks : Marks) (cs : List Char) : List Char :=
  if marks.verbose then dropBlank false cs else cs

/-- What was read, as something else. -/
def converted {α β : Type} (f : α → β) (read : Option (α × List Char)) : Option (β × List Char) :=
  read.map fun r => (f r.1, r.2)

/-- What was read, as something else that it may fail to be. -/
def checked {α β : Type} (f : α → Option β) (read : Option (α × List Char)) : Option (β × List Char) :=
  read.bind fun r => (f r.1).map (·, r.2)

/-- The text up to a closing character, and what follows that. -/
def upTo? (close : Char) (cs : List Char) : Option (List Char × List Char) :=
  match cs.dropWhile (· != close) with
  | [] => none
  | _ :: rest => some (cs.takeWhile (· != close), rest)

/-- The first of some forms that a text begins with. A longer form stands before the shorter one that begins it. -/
def formed? {α : Type} (forms : List (String × α)) (cs : List Char) : Option (α × List Char) :=
  forms.findSome? fun form => (Text.afterPrefix? form.1.toList cs).map (form.2, ·)

/-- A range of characters, in any case if so marked. -/
def rangeSet (marks : Marks) (low high : Char) : CharSet :=
  if marks.anyCase then .anyCase low high else .range low high

def charSet (marks : Marks) (c : Char) : CharSet := rangeSet marks c c

/-- A named class, kept to ASCII when so marked. -/
def namedSet (marks : Marks) (k : CharClass) : CharSet :=
  if marks.unicode then .named k else .inter (.named k) (.range '\x00' '\x7f')

def unionOf (sets : List CharSet) : CharSet := sets.foldl .union .nothing

/-- The set of a class escape such as `\d`. -/
def escapeSet? (marks : Marks) : Char → Option CharSet
  | 'd' => some (namedSet marks .digit)
  | 's' => some (namedSet marks .space)
  | 'w' => some (namedSet marks .word)
  | 'D' => some (.compl (namedSet marks .digit))
  | 'S' => some (.compl (namedSet marks .space))
  | 'W' => some (.compl (namedSet marks .word))
  | _ => none

/-- The classes that `\p` names. -/
def propertySet? (name : String) : Option CharSet :=
  let plain := String.ofList ((Text.asciiLower name).toList.filter fun c => c != '_' && c != '-' && c != ' ')
  if plain = "l" ∨ plain = "letter" then some (.named .letter)
  else if plain = "lu" ∨ plain = "uppercaseletter" then some (.named .capitalLetter)
  else if plain = "ll" ∨ plain = "lowercaseletter" then some (.named .smallLetter)
  else if plain = "m" ∨ plain = "mark" then some (.named .mark)
  else if plain = "n" ∨ plain = "number" then some (.named .numeric)
  else if plain = "nd" ∨ plain = "decimalnumber" ∨ plain = "digit" then some (.named .digit)
  else if plain = "alphabetic" ∨ plain = "alpha" then some (.named .alphabetic)
  else if plain = "whitespace" ∨ plain = "space" then some (.named .space)
  else if plain = "any" then some (.compl .nothing)
  else none

/-- A set, or all that it lacks. -/
def negateIf (negated : Bool) (s : CharSet) : CharSet := if negated then .compl s else s

/-- The set of the name of a property in braces, which a caret negates. -/
def bracedProperty? (negated : Bool) : List Char → Option CharSet
  | '^' :: name => (propertySet? (String.ofList name)).map (negateIf !negated)
  | name => (propertySet? (String.ofList name)).map (negateIf negated)

/-- The set of a property of one letter. -/
def letterProperty? (negated : Bool) (c : Char) : Option CharSet :=
  (propertySet? (String.singleton c)).map (negateIf negated)

/-- A property after `\p`: one letter, or a name in braces. -/
def property? (negated : Bool) : List Char → Option (CharSet × List Char)
  | '\x7b' :: cs => checked (bracedProperty? negated) (upTo? '\x7d' cs)
  | c :: cs => (letterProperty? negated c).map (·, cs)
  | [] => none

/-- The value of hexadecimal digits. -/
def hexValue? (cs : List Char) : Option Nat :=
  if cs.isEmpty then none
  else cs.foldlM (fun n c => (Value.Reader.hexDigit? c).map (16 * n + ·)) 0

def charOf? (n : Nat) : Option Char :=
  if n < 0xD800 ∨ (0xDFFF < n ∧ n < 0x110000) then some (Char.ofNat n) else none

/-- A character by its code: so many digits, or any number of them in braces. -/
def hexChar? (count : Nat) : List Char → Option (Char × List Char)
  | '\x7b' :: cs => checked (fun code => (hexValue? code).bind charOf?) (upTo? '\x7d' cs)
  | cs =>
    if cs.length < count then none else ((hexValue? (cs.take count)).bind charOf?).map (·, cs.drop count)

/-- Characters that a backslash makes plain: punctuation of ASCII other than angle brackets, and the
    space. -/
def isPlainEscape (c : Char) : Bool :=
  c.toNat < 128 && !c.isAlphanum && c != '<' && c != '>'

/-- What a backslash and a character stand for without more characters. -/
def shortEscape? (c : Char) : Option Char :=
  match c with
  | 'a' => some '\x07'
  | 'f' => some '\x0c'
  | 't' => some '\t'
  | 'n' => some '\n'
  | 'r' => some '\r'
  | 'v' => some '\x0b'
  | c => if isPlainEscape c then some c else none

/-- A single character after a backslash. -/
def escapedChar? : List Char → Option (Char × List Char)
  | 'x' :: cs => hexChar? 2 cs
  | 'u' :: cs => hexChar? 4 cs
  | 'U' :: cs => hexChar? 8 cs
  | c :: cs => (shortEscape? c).map (·, cs)
  | [] => none

/-- The anchors that a backslash writes. -/
def anchorForms : List (String × Anchor) :=
  [("A", .textStart), ("z", .textEnd), ("b\x7bstart\x7d", .wordStart), ("b\x7bend\x7d", .wordEnd),
   ("b\x7bstart-half\x7d", .noWordBefore), ("b\x7bend-half\x7d", .noWordAfter), ("b", .wordEdge),
   ("B", .notWordEdge), ("<", .wordStart), (">", .wordEnd)]

/-- The anchor of an escape. -/
def escapedAnchor? (cs : List Char) : Option (Anchor × List Char) := formed? anchorForms cs

/-- A set after a backslash. -/
def escapedSet? (marks : Marks) : List Char → Option (CharSet × List Char)
  | 'p' :: rest => property? false rest
  | 'P' :: rest => property? true rest
  | c :: rest => (escapeSet? marks c).map (·, rest)
  | [] => none

/-- An escape outside of a class. -/
def escape? (marks : Marks) (cs : List Char) : Option (Pattern × List Char) :=
  match escapedAnchor? cs with
  | some (a, rest) => some (.anchor a, rest)
  | none =>
    match escapedSet? marks cs with
    | some (s, rest) => some (.one s, rest)
    | none => converted (fun c => .one (charSet marks c)) (escapedChar? cs)

/-! ### Depth -/

/-- How deep parts are nested that stand side by side: two or more of them are a level of their own. -/
def sideBySide (depths : List Nat) : Nat :=
  let deepest := depths.foldl max 0
  if depths.length ≤ 1 then deepest else deepest + 1

/-! ### Bracketed classes -/

/-- An item of a class: a character, which may begin a range, or a set. -/
inductive ClassItem where
  | char (c : Char)
  | set (s : CharSet)

def ClassItem.toSet (marks : Marks) : ClassItem → CharSet
  | .char c => charSet marks c
  | .set s => s

def classItem? (marks : Marks) : List Char → Option (ClassItem × List Char)
  | [] => none
  | '\\' :: cs =>
    match escapedSet? marks cs with
    | some (s, rest) => some (.set s, rest)
    | none => converted .char (escapedChar? cs)
  | c :: cs => some (.char c, cs)

/-- The sets that bracketed names such as `[:alpha:]` stand for. -/
def asciiClass? (name : String) : Option CharSet :=
  let r := CharSet.range
  if name = "alnum" then some (unionOf [r '0' '9', r 'A' 'Z', r 'a' 'z'])
  else if name = "alpha" then some (unionOf [r 'A' 'Z', r 'a' 'z'])
  else if name = "ascii" then some (r '\x00' '\x7f')
  else if name = "blank" then some (unionOf [r '\t' '\t', r ' ' ' '])
  else if name = "cntrl" then some (unionOf [r '\x00' '\x1f', r '\x7f' '\x7f'])
  else if name = "digit" then some (r '0' '9')
  else if name = "graph" then some (r '!' '~')
  else if name = "lower" then some (r 'a' 'z')
  else if name = "print" then some (r ' ' '~')
  else if name = "punct" then some (unionOf [r '!' '/', r ':' '@', r '[' '\x60', r '\x7b' '~'])
  else if name = "space" then some (unionOf [r '\t' '\r', r ' ' ' '])
  else if name = "upper" then some (r 'A' 'Z')
  else if name = "word" then some (unionOf [r '0' '9', r 'A' 'Z', r 'a' 'z', r '_' '_'])
  else if name = "xdigit" then some (unionOf [r '0' '9', r 'A' 'F', r 'a' 'f'])
  else none

/-- A name of letters that a colon and a bracket close. -/
def asciiName? (negated : Bool) (cs : List Char) : Option (CharSet × List Char) :=
  (Text.afterPrefix? [':', ']'] (cs.dropWhile Char.isAlpha)).bind fun rest =>
    (asciiClass? (String.ofList (cs.takeWhile Char.isAlpha))).map (negateIf negated ·, rest)

/-- A bracketed name after its opening bracket. -/
def asciiItem? (cs : List Char) : Option (CharSet × List Char) :=
  (formed? [(":^", true), (":", false)] cs).bind fun r => asciiName? r.1 r.2

/-- How two parts of a class are put together. -/
inductive ClassOp where
  | inter | diff | symDiff

def ClassOp.apply : ClassOp → CharSet → CharSet → CharSet
  | .inter, s, t => .inter s t
  | .diff, s, t => s.diff t
  | .symDiff, s, t => .union (s.diff t) (t.diff s)

/-- A set, and how deep brackets, unions and operations are nested in its text. -/
structure ClassPart where
  set : CharSet
  depth : Nat

/-- The set so far: the finished part with an operation that waits, and the items of the current part. -/
structure ClassState where
  negated : Bool := false
  pending : Option (ClassPart × ClassOp) := none
  items : List ClassPart := []

namespace ClassState

def current (s : ClassState) : ClassPart :=
  let union : ClassPart := ⟨unionOf (s.items.map (·.set)), sideBySide (s.items.map (·.depth))⟩
  match s.pending with
  | some (left, op) => ⟨op.apply left.set union.set, max left.depth union.depth + 1⟩
  | none => union

def addPart (s : ClassState) (part : ClassPart) : ClassState := { s with items := s.items ++ [part] }

def add (s : ClassState) (item : CharSet) : ClassState := s.addPart ⟨item, 0⟩

def operate (s : ClassState) (op : ClassOp) : ClassState := { s with pending := some (s.current, op), items := [] }

/-- The whole class, in its brackets. -/
def finish (s : ClassState) : ClassPart := ⟨negateIf s.negated s.current.set, s.current.depth + 1⟩

end ClassState

/-- Whether a caret negates a class, and what follows. -/
def classSign (marks : Marks) (cs : List Char) : Bool × List Char :=
  match skip marks cs with
  | [] => (false, [])
  | c :: rest => if c = '^' then (true, skip marks rest) else (false, c :: rest)

/-- The plain bracket or the plain dashes that may open a class. -/
def classLead (marks : Marks) (negated : Bool) : List Char → ClassState × List Char
  | [] => ({ negated }, [])
  | c :: rest =>
    if c = ']' then ({ negated, items := [⟨charSet marks ']', 0⟩] }, rest)
    else ({ negated, items := ((c :: rest).takeWhile (· == '-')).map fun d => ⟨charSet marks d, 0⟩ },
      (c :: rest).dropWhile (· == '-'))

/-- The start of a class after its bracket. -/
def classStart (marks : Marks) (cs : List Char) : ClassState × List Char :=
  let sign := classSign marks cs
  classLead marks sign.1 sign.2

/-- The range from one item of a class to the next. -/
def rangeTo? (marks : Marks) (low : ClassItem) (cs : List Char) : Option (CharSet × List Char) :=
  match low, classItem? marks cs with
  | .char low, some (.char high, rest) => if low.toNat ≤ high.toNat then some (rangeSet marks low high, rest) else none
  | _, _ => none

/-- An item of a class that was read, or the range that it begins. A dash is plain before the closing bracket and
    before another dash. -/
def rangeFrom? (marks : Marks) (item : ClassItem) (cs : List Char) : Option (CharSet × List Char) :=
  match skip marks cs with
  | [] => some (item.toSet marks, cs)
  | c :: tail =>
    if c = '-' then
      match skip marks tail with
      | [] => none
      | d :: last =>
        if d = ']' ∨ d = '-' then some (item.toSet marks, cs) else rangeTo? marks item (d :: last)
    else some (item.toSet marks, cs)

/-- An item of a class, or a range from one character to another. -/
def classRange? (marks : Marks) (cs : List Char) : Option (CharSet × List Char) :=
  (classItem? marks cs).bind fun r => rangeFrom? marks r.1 r.2

/-- The sign that puts two parts of a class together. -/
def operation? (cs : List Char) : Option (ClassOp × List Char) :=
  formed? [("&&", .inter), ("--", .diff), ("~~", .symDiff)] cs

/-- What comes next in a class. -/
inductive ClassToken where
  | close
  /-- The opening bracket of a class inside. -/
  | opens
  | operate (op : ClassOp)
  | add (set : CharSet)

def classToken? (marks : Marks) (cs : List Char) : Option (ClassToken × List Char) :=
  match skip marks cs with
  | [] => none
  | c :: rest =>
    if c = ']' then some (.close, rest)
    else if c = '[' then
      match asciiItem? rest with
      | some (s, rest) => some (.add s, rest)
      | none => some (.opens, rest)
    else
      match operation? (c :: rest) with
      | some (op, rest) => some (.operate op, rest)
      | none => converted .add (classRange? marks (c :: rest))

/-- The rest of a class up to its closing bracket; `fuel` bounds the steps. -/
def classBody (fuel : Nat) (marks : Marks) (state : ClassState) (cs : List Char) : Option (ClassPart × List Char) :=
  match fuel with
  | 0 => none
  | fuel + 1 =>
    match classToken? marks cs with
    | none => none
    | some (.close, rest) => some (state.finish, rest)
    | some (.opens, rest) =>
      let start := classStart marks rest
      (classBody fuel marks start.1 start.2).bind fun inner =>
        classBody fuel marks (state.addPart inner.1) inner.2
    | some (.operate op, rest) => classBody fuel marks (state.operate op) rest
    | some (.add set, rest) => classBody fuel marks (state.add set) rest

/-! ### Repetition -/

/-- Decimal digits with blanks around them. -/
def count? (cs : List Char) : Option (Nat × List Char) :=
  let cs := Text.trimStart cs
  let digits := cs.takeWhile Char.isDigit
  let n := Number.natOfDigits digits
  if digits.isEmpty || Number.twoTo 32 ≤ n then none
  else some (n, Text.trimStart (cs.dropWhile Char.isDigit))

/-- The least and the greatest number of repetitions; some have no greatest. -/
abbrev Bounds := Nat × Option Nat

/-- An upper bound that is no less than the lower one, and the closing brace. -/
def highBound? (low : Nat) (cs : List Char) : Option (Bounds × List Char) :=
  (count? cs).bind fun high => formed? (if low ≤ high.1 then [("\x7d", (low, some high.1))] else []) high.2

/-- What follows the comma in a counted repetition: the closing brace, or an upper bound with it. -/
def upperBound? (low : Nat) (cs : List Char) : Option (Bounds × List Char) :=
  (formed? [("\x7d", (low, none))] (Text.trimStart cs)).or (highBound? low cs)

/-- The bounds of a counted repetition after its opening brace. -/
def bounds? (cs : List Char) : Option (Bounds × List Char) :=
  (count? cs).bind fun low =>
    (formed? [("\x7d", (low.1, some low.1))] low.2).or
      ((formed? [(",", ())] low.2).bind fun comma => upperBound? low.1 comma.2)

/-- Drops the sign for few rather than many. -/
def dropLazy : List Char → List Char
  | '?' :: cs => cs
  | cs => cs

/-! ### Groups -/

/-- The marks that a sign switches. -/
def switched? (marks : Marks) (on : Bool) : Char → Option Marks
  | 'i' => some { marks with anyCase := on }
  | 'm' => some { marks with multiLine := on }
  | 's' => some { marks with dotAll := on }
  | 'x' => some { marks with verbose := on }
  | 'u' => some { marks with unicode := on }
  | 'U' => some marks
  | 'R' => some { marks with returns := on }
  | _ => none

/-- Marks after `(?`, up to the closing parenthesis or the colon: whether they are switched off by now, the signs
    so far, and whether a dash has no sign yet. -/
def marks? (off : Bool) (seen : List Char) (dangling : Bool) (marks : Marks) :
    List Char → Option (Marks × List Char)
  | [] => none
  | c :: cs =>
    if c = ')' ∨ c = ':' then
      if dangling || seen.isEmpty && c = ')' then none else some (marks, c :: cs)
    else if c = '-' then if off then none else marks? true seen true marks cs
    else if seen.contains c then none
    else
      match switched? marks (!off) c with
      | some marks => marks? off (c :: seen) false marks cs
      | none => none

/-- Names of groups: a letter or underscore, then also digits, dots and brackets. -/
def isGroupName : List Char → Bool
  | [] => false
  | n :: ns => (n == '_' || Text.isAlphabetic n) &&
      ns.all fun c => c == '_' || c == '.' || c == '[' || c == ']' || Text.isAlphanumeric c

/-- The name of a group before its `>`, and what follows. -/
def groupName? (cs : List Char) : Option (List Char × List Char) :=
  checked (Option.guard isGroupName) (upTo? '>' cs)

/-- What follows the sign that a group has a name. -/
def nameStart? (cs : List Char) : Option (Unit × List Char) := formed? [("P<", ()), ("<", ())] cs

/-- What a part of a text writes: a pattern, how deep its operators are nested, and the names of its groups. -/
structure Part where
  pattern : Pattern
  depth : Nat := 0
  names : List (List Char) := []

namespace Part

/-- A part as the operand of an operator. -/
def inside (p : Part) : Part := { p with depth := p.depth + 1 }

/-- A part in parentheses. -/
def inGroup (p : Part) (name : Option (List Char)) : Part := { p.inside with names := name.toList ++ p.names }

def repeated (p : Part) (min : Nat) (max : Option Nat) : Part :=
  { p.inside with pattern := .repeated p.pattern min max }

/-- One more alternative. -/
def or (done : Option Part) (p : Part) : Part :=
  match done with
  | some d => ⟨.alt d.pattern p.pattern, max d.depth p.depth, d.names ++ p.names⟩
  | none => p

/-- All alternatives, of which this is the last. -/
def finish (done : Option Part) (p : Part) : Part :=
  if done.isSome then (Part.or done p).inside else p

end Part

/-- What comes next in a text. -/
inductive Token where
  /-- The end of the text or, with its closing parenthesis, of the group. -/
  | stop
  | bar
  /-- The opening of a group with or without a name, read with these marks. -/
  | group (name : Option (List Char)) (marks : Marks)
  /-- Marks for the rest of the group around. -/
  | change (marks : Marks)
  | atom (part : Part)
  /-- What stands before is repeated. -/
  | times (min : Nat) (max : Option Nat)

/-- What begins after the question mark of a group. -/
def marked? (marks : Marks) (cs : List Char) : Option (Token × List Char) :=
  match nameStart? cs with
  | some (_, cs) => converted (fun name => .group (some name) marks) (groupName? cs)
  | none =>
    match marks? false [] false marks cs with
    | some (inner, ':' :: rest) => some (.group none inner, rest)
    | some (inner, ')' :: rest) => some (.change inner, rest)
    | _ => none

/-- What an opening parenthesis begins. -/
def opening? (marks : Marks) (cs : List Char) : Option (Token × List Char) :=
  match skip marks cs with
  | [] => some (.group none marks, [])
  | c :: rest => if c = '?' then marked? marks rest else some (.group none marks, c :: rest)

/-- A class after its opening bracket. -/
def bracketed? (marks : Marks) (cs : List Char) : Option (ClassPart × List Char) :=
  let start := classStart marks cs
  classBody (start.2.length + 1) marks start.1 start.2

/-- The dot and the two line anchors. -/
def dot (marks : Marks) : Pattern :=
  .one <|
    if marks.dotAll then .compl .nothing
    else if marks.returns then .compl (.union (.single '\r') (.single '\n'))
    else .compl (.single '\n')

def caret (marks : Marks) : Pattern :=
  .anchor (if !marks.multiLine then .textStart else if marks.returns then .returnLineStart else .lineStart)

def dollar (marks : Marks) : Pattern :=
  .anchor (if !marks.multiLine then .textEnd else if marks.returns then .returnLineEnd else .lineEnd)

/-- The token that begins with a character, and the rest. -/
def tokenFrom? (marks : Marks) (c : Char) (rest : List Char) : Option (Token × List Char) :=
  match c with
  | '|' => some (.bar, rest)
  | '(' => opening? marks rest
  | '[' => converted (fun part => .atom ⟨.one part.set, part.depth, []⟩) (bracketed? marks rest)
  | '\\' => converted (fun p => .atom ⟨p, 0, []⟩) (escape? marks rest)
  | '.' => some (.atom ⟨dot marks, 0, []⟩, rest)
  | '^' => some (.atom ⟨caret marks, 0, []⟩, rest)
  | '$' => some (.atom ⟨dollar marks, 0, []⟩, rest)
  | '?' => some (.times 0 (some 1), dropLazy rest)
  | '*' => some (.times 0 none, dropLazy rest)
  | '+' => some (.times 1 none, dropLazy rest)
  | '\x7b' => (bounds? rest).map fun r => (.times r.1.1 r.1.2, dropLazy r.2)
  | c => some (.atom ⟨.one (charSet marks c), 0, []⟩, rest)

def token? (marks : Marks) (cs : List Char) : Option (Token × List Char) :=
  match skip marks cs with
  | [] => some (.stop, [])
  | c :: rest => if c = ')' then some (.stop, c :: rest) else tokenFrom? marks c rest

/-! ### Alternatives -/

/-- A sequence from its items. -/
def sequence : List Pattern → Pattern
  | [] => .empty
  | [p] => p
  | p :: ps => .seq p (sequence ps)

/-- The items read so far, the last one first; a change of marks is no item that could be repeated. -/
abbrev Items := List (Option Part)

def Items.toPart (items : Items) : Part :=
  let parts := (items.filterMap id).reverse
  ⟨sequence (parts.map (·.pattern)), sideBySide (items.map fun item => (item.map (·.depth)).getD 0),
    parts.flatMap (·.names)⟩

/-- How far alternatives are read: the marks for what follows, the finished alternatives and the items of the
    current one. -/
structure Progress where
  marks : Marks := {}
  done : Option Part := none
  items : Items := []

namespace Progress

def part (s : Progress) : Part := Part.finish s.done s.items.toPart

def add (s : Progress) (p : Part) : Progress := { s with items := some p :: s.items }

/-- After one more token inside the same parentheses. -/
def next? (s : Progress) : Token → Option Progress
  | .bar => some { s with done := some (Part.or s.done s.items.toPart), items := [] }
  | .change inner => some { s with marks := inner, items := none :: s.items }
  | .atom p => some (s.add p)
  | .times min max =>
    match s.items with
    | some p :: items => some { s with items := some (p.repeated min max) :: items }
    | _ => none
  | .stop | .group _ _ => none

end Progress

/-- Alternatives up to a closing parenthesis or the end; `fuel` bounds the steps. -/
def alternatives (fuel : Nat) (s : Progress) (cs : List Char) : Option (Part × List Char) :=
  match fuel with
  | 0 => none
  | fuel + 1 =>
    match token? s.marks cs with
    | none => none
    | some (.stop, rest) => some (s.part, rest)
    | some (.group name inner, rest) =>
      match alternatives fuel { marks := inner } rest with
      | some (p, ')' :: rest) => alternatives fuel (s.add (p.inGroup name)) rest
      | _ => none
    | some (t, rest) =>
      match s.next? t with
      | some s => alternatives fuel s rest
      | none => none

/-- What a whole text writes. -/
def whole? (cs : List Char) : Option Part :=
  match alternatives (cs.length + 1) {} cs with
  | some (p, []) => some p
  | _ => none

/-- Operators that may stand inside each other. -/
def maxDepth : Nat := 250

/-- Whether a pattern keeps to the limits of nesting and names its groups differently. -/
def Part.isSound (p : Part) : Bool := p.depth ≤ maxDepth && decide p.names.Nodup

end Reader

/-- The pattern that a text writes. -/
def ofText? (s : String) : Option Pattern := ((Reader.whole? s.toList).filter (·.isSound)).map (·.pattern)

end PromptForm.Pattern
