import PromptForm.Template.Token
import PromptForm.Template.Basic

/-!
# Reading templates

The grammar of expressions and statements over the pieces of a template. From loose to tight binding:
choice, `or`, `and`, `not`, comparisons, sums, joins, products, powers, filters and tests, calls and parts.
There is one fault only, so a reader gives what it read with the tokens left, or nothing.
-/

namespace PromptForm.Template

/-- Takes an `α` from the front of some tokens. -/
abbrev Reader (α : Type) := List Token → Option (α × List Token)

namespace Reader

/-- The tokens after a mark, if it stands here. -/
def mark? (s : String) : List Token → Option (List Token)
  | .symbol t :: rest => if t = s then some rest else none
  | _ => none

/-- The tokens after a keyword, if it stands here. -/
def keyword? (s : String) : List Token → Option (List Token)
  | .word t :: rest => if t = s then some rest else none
  | _ => none

/-- Items with commas between them up to a closing mark; a comma may follow the last. -/
def commaList {α : Type} (close : String) (item : Reader α) : Nat → Reader (List α)
  | 0, _ => none
  | fuel + 1, ts =>
    match mark? close ts with
    | some rest => some ([], rest)
    | none => do
      let (a, rest) ← item ts
      match mark? close rest with
      | some rest => some ([a], rest)
      | none => do
        let rest ← mark? "," rest
        let (as, rest) ← commaList close item fuel rest
        some (a :: as, rest)

/-- A chain of operators that bind from the left. -/
def chain (operator? : Reader Operator) (operand : Reader Expr) : Nat → Expr → Reader Expr
  | 0, _, _ => none
  | fuel + 1, left, ts =>
    match operator? ts with
    | none => some (left, ts)
    | some (op, rest) => do
      let (right, rest) ← operand rest
      chain operator? operand fuel (.binary op left right) rest

/-- An operand and the operators after it. -/
def chained (operator? : Reader Operator) (operand : Reader Expr) : Reader Expr := fun ts => do
  let (left, rest) ← operand ts
  chain operator? operand (rest.length + 1) left rest

/-- An operator that is one of these marks. -/
def oneOf (marks : List (String × Operator)) : Reader Operator
  | .symbol t :: rest => (Fields.get? t marks).map (·, rest)
  | _ => none

/-! ### Primaries -/

/-- An argument of a call, with its name if it has one. -/
def argument (expression : Reader Expr) : Reader (Option String × Expr)
  | .word n :: .symbol "=" :: rest => (expression rest).map fun (e, rest) => ((some n, e), rest)
  | ts => (expression ts).map fun (e, rest) => ((none, e), rest)

/-- Arguments without and with names; none without a name comes after one with a name. -/
def splitArguments : List (Option String × Expr) → Option (List Expr × List (String × Expr))
  | [] => some ([], [])
  | (none, e) :: rest => (splitArguments rest).map fun (args, named) => (e :: args, named)
  | (some n, e) :: rest => do
    let (args, named) ← splitArguments rest
    if args.isEmpty then some ([], (n, e) :: named) else none

/-- The arguments of a call after its parenthesis. -/
def arguments (expression : Reader Expr) : Reader (List Expr × List (String × Expr)) := fun ts => do
  let (args, rest) ← commaList ")" (argument expression) (ts.length + 1) ts
  (splitArguments args).map (·, rest)

/-- An entry of a map. -/
def mapEntry (expression : Reader Expr) : Reader (Expr × Expr) := fun ts => do
  let (k, rest) ← expression ts
  let (e, rest) ← expression (← mark? ":" rest)
  some ((k, e), rest)

/-- What stands in parentheses: an expression, or a list if there is a comma. -/
def parenthesized (expression : Reader Expr) : Reader Expr := fun ts =>
  match mark? ")" ts with
  | some rest => some (.list [], rest)
  | none => do
    let (e, rest) ← expression ts
    match mark? ")" rest with
    | some rest => some (e, rest)
    | none => do
      let rest ← mark? "," rest
      let (es, rest) ← commaList ")" expression (rest.length + 1) rest
      some (.list (e :: es), rest)

/-- The word of a constant, in either spelling. -/
def constant? (w : String) : Option Datum :=
  if w = "true" ∨ w = "True" then some (.bool true)
  else if w = "false" ∨ w = "False" then some (.bool false)
  else if w = "none" ∨ w = "None" then some .null
  else none

def primary (expression : Reader Expr) : Reader Expr
  | .word w :: rest =>
    match constant? w with
    | some d => some (.literal d, rest)
    | none => some (.name w, rest)
  | .string s :: rest => some (.literal (.string s), rest)
  | .int n :: rest => some (.literal (Datum.int n), rest)
  | .float x :: rest => some (.literal (.number (.float x)), rest)
  | .symbol "(" :: rest => parenthesized expression rest
  | .symbol "[" :: rest =>
    (commaList "]" expression (rest.length + 1) rest).map fun (es, rest) => (.list es, rest)
  | .symbol "\x7b" :: rest =>
    (commaList "\x7d" (mapEntry expression) (rest.length + 1) rest).map fun (es, rest) => (.map es, rest)
  | _ => none

/-- A primary with minus signs before it. -/
def signed (expression : Reader Expr) : Reader Expr
  | .symbol "-" :: rest => (signed expression rest).map fun (e, rest) => (.negative e, rest)
  | ts => primary expression ts

/-! ### Parts, calls, filters and tests -/

/-- A bound of a slice; `absent` stands for one that is not written. -/
def sliceBound (expression : Reader Expr) (absent : Expr) : Reader Expr
  | .symbol ":" :: rest => some (absent, .symbol ":" :: rest)
  | .symbol "]" :: rest => some (absent, .symbol "]" :: rest)
  | ts => expression ts

/-- What stands in brackets after an expression: a key or a slice. -/
def bracketed (expression : Reader Expr) (e : Expr) : Reader Expr := fun ts => do
  let null := Expr.literal .null
  let (first, rest) ← sliceBound expression null ts
  match mark? ":" rest with
  | none => do
    let afterKey ← mark? "]" rest
    -- empty brackets hold no key
    if (mark? "]" ts).isSome then none else some (.entry e first, afterKey)
  | some rest => do
    let (last, rest) ← sliceBound expression null rest
    match mark? ":" rest with
    | none => (mark? "]" rest).map (.slice e first last null, ·)
    | some rest => do
      let (step, rest) ← sliceBound expression null rest
      (mark? "]" rest).map (.slice e first last step, ·)

/-- A call of an expression. -/
def called (e : Expr) (args : List Expr) (named : List (String × Expr)) : Expr :=
  match e with
  | .name n => .call n args named
  | .attribute inner name => .method inner name args
  | _ => .invoke e args

/-- The parts and calls after an expression. -/
def postfixed (expression : Reader Expr) : Nat → Expr → Reader Expr
  | 0, _, _ => none
  | fuel + 1, e, ts =>
    match ts with
    | .symbol "." :: .word n :: rest => postfixed expression fuel (.attribute e n) rest
    | .symbol "." :: .int n :: rest => postfixed expression fuel (.entry e (.literal (Datum.int n))) rest
    | .symbol "." :: _ => none
    | .symbol "[" :: rest => do
      let (e, rest) ← bracketed expression e rest
      postfixed expression fuel e rest
    | .symbol "(" :: rest => do
      let ((args, named), rest) ← arguments expression rest
      postfixed expression fuel (called e args named) rest
    | _ => some (e, ts)

/-- Whether the one argument of a test may begin here without parentheses. -/
def beginsArgument : List Token → Bool
  | .word w :: _ => !(["and", "or", "else", "is"].contains w)
  | .string _ :: _ | .int _ :: _ | .float _ :: _ => true
  | .symbol t :: _ => ["+", "-", "[", "\x7b"].contains t
  | [] => false

/-- The arguments of a test. -/
def testArguments (expression : Reader Expr) : Reader (List Expr) := fun ts =>
  match mark? "(" ts with
  | some rest => (arguments expression rest).map fun ((args, _), rest) => (args, rest)
  | none =>
    if beginsArgument ts then do
      let (e, rest) ← signed expression ts
      let (e, rest) ← postfixed expression (rest.length + 1) e rest
      some ([e], rest)
    else some ([], ts)

/-- The filters and tests after an expression. -/
def filtered (expression : Reader Expr) : Nat → Expr → Reader Expr
  | 0, _, _ => none
  | fuel + 1, e, ts =>
    match ts with
    | .symbol "|" :: .word n :: .symbol "(" :: rest => do
      let ((args, named), rest) ← arguments expression rest
      filtered expression fuel (.filter e n args named) rest
    | .symbol "|" :: .word n :: rest => filtered expression fuel (.filter e n [] []) rest
    | .symbol "|" :: _ => none
    | .word "is" :: .word "not" :: .word n :: rest => do
      let (args, rest) ← testArguments expression rest
      filtered expression fuel (.negation (.test e n args)) rest
    | .word "is" :: .word "not" :: _ => none
    | .word "is" :: .word n :: rest => do
      let (args, rest) ← testArguments expression rest
      filtered expression fuel (.test e n args) rest
    | .word "is" :: _ => none
    | _ => some (e, ts)

def unary (expression : Reader Expr) : Reader Expr := fun ts => do
  let (e, rest) ← signed expression ts
  let (e, rest) ← postfixed expression (rest.length + 1) e rest
  filtered expression (rest.length + 1) e rest

/-! ### Operators -/

def powers (expression : Reader Expr) : Reader Expr :=
  chained (oneOf [("**", .power)]) (unary expression)

def products (expression : Reader Expr) : Reader Expr :=
  chained (oneOf [("*", .multiply), ("/", .divide), ("//", .divideWhole), ("%", .remainder)])
    (powers expression)

def joins (expression : Reader Expr) : Reader Expr := chained (oneOf [("~", .join)]) (products expression)

def sums (expression : Reader Expr) : Reader Expr :=
  chained (oneOf [("+", .add), ("-", .subtract)]) (joins expression)

/-- The comparisons after an expression. -/
def compared (operand : Reader Expr) : Nat → Expr → Reader Expr
  | 0, _, _ => none
  | fuel + 1, left, ts =>
    match ts with
    | .word "in" :: rest => do
      let (right, rest) ← operand rest
      compared operand fuel (.binary .within left right) rest
    | .word "not" :: rest => do
      let (right, rest) ← operand (← keyword? "in" rest)
      compared operand fuel (.negation (.binary .within left right)) rest
    | _ =>
      match oneOf [("==", .equal), ("!=", .different), ("<", .less), ("<=", .lessOrEqual), (">", .greater),
        (">=", .greaterOrEqual)] ts with
      | none => some (left, ts)
      | some (op, rest) => do
        let (right, rest) ← operand rest
        compared operand fuel (.binary op left right) rest

def comparisons (expression : Reader Expr) : Reader Expr := fun ts => do
  let (left, rest) ← sums expression ts
  compared (sums expression) (rest.length + 1) left rest

def negations (expression : Reader Expr) : Reader Expr
  | .word "not" :: rest => (negations expression rest).map fun (e, rest) => (.negation e, rest)
  | ts => comparisons expression ts

/-- Operands joined by a keyword from the left. -/
def joinedBy (word : String) (join : Expr → Expr → Expr) (operand : Reader Expr) : Nat → Expr → Reader Expr
  | 0, _, _ => none
  | fuel + 1, left, ts =>
    match keyword? word ts with
    | none => some (left, ts)
    | some rest => do
      let (right, rest) ← operand rest
      joinedBy word join operand fuel (join left right) rest

def conjunctions (expression : Reader Expr) : Reader Expr := fun ts => do
  let (left, rest) ← negations expression ts
  joinedBy "and" .both (negations expression) (rest.length + 1) left rest

def disjunctions (expression : Reader Expr) : Reader Expr := fun ts => do
  let (left, rest) ← conjunctions expression ts
  joinedBy "or" .either (conjunctions expression) (rest.length + 1) left rest

/-- The choices after an expression; without `else` the other side is nothing. -/
def chosen (expression : Reader Expr) : Nat → Expr → Reader Expr
  | 0, _, _ => none
  | fuel + 1, yes, ts =>
    match keyword? "if" ts with
    | none => some (yes, ts)
    | some rest => do
      let (test, rest) ← disjunctions expression rest
      match keyword? "else" rest with
      | none => chosen expression fuel (.choice test yes (.literal .undefined)) rest
      | some rest => do
        let (no, rest) ← expression rest
        chosen expression fuel (.choice test yes no) rest

/-- An expression; `nesting` bounds the expressions inside each other. -/
def expression : Nat → Reader Expr
  | 0, _ => none
  | nesting + 1, ts => do
    let (e, rest) ← disjunctions (expression nesting) ts
    chosen (expression nesting) (rest.length + 1) e rest

/-- An expression that takes all tokens. -/
def wholeExpression (ts : List Token) : Option Expr :=
  match expression (ts.length + 1) ts with
  | some (e, []) => some e
  | _ => none

/-! ### Statements -/

/-- The words that cannot be bound. -/
def reserved : List String := ["true", "True", "false", "False", "none", "None", "loop", "self"]

def targetName : Reader String
  | .word n :: rest => if reserved.contains n then none else some (n, rest)
  | _ => none

/-- A part of a target: a name, or a target in parentheses. -/
def targetPart (target : Reader Target) : Reader Target
  | .symbol "(" :: rest => do
    let (t, rest) ← target rest
    (mark? ")" rest).map (t, ·)
  | ts => (targetName ts).map fun (n, rest) => (.name n, rest)

/-- Whether no part of a target follows. -/
def targetEnds : List Token → Bool
  | [] => true
  | .symbol s :: _ => s == ")"
  | .word w :: _ => w == "in"
  | _ => false

/-- The parts of a target after its first, each behind a comma; a comma may follow the last. -/
def targetParts (part : Reader Target) : Nat → Reader (List Target)
  | 0, _ => none
  | fuel + 1, ts =>
    match mark? "," ts with
    | none => some ([], ts)
    | some rest =>
      if targetEnds rest then some ([], rest)
      else do
        let (t, rest) ← part rest
        let (more, rest) ← targetParts part fuel rest
        some (t :: more, rest)

/-- One part, or several with commas, in so many parentheses at most. -/
def target : Nat → Reader Target
  | 0, _ => none
  | nesting + 1, ts => do
    let (t, rest) ← targetPart (target nesting) ts
    match mark? "," rest with
    | none => some (t, rest)
    | some _ =>
      (targetParts (targetPart (target nesting)) (rest.length + 1) rest).map fun (more, rest) =>
        (.parts (t :: more), rest)

/-- What an assignment binds: a target in parentheses or a single name. -/
def assigned : Reader Target := fun ts => targetPart (target (ts.length + 1)) ts

/-- The head of a loop: its target, source and filter. -/
def loopHead (ts : List Token) : Option (Target × Expr × Option Expr) := do
  let (t, rest) ← target (ts.length + 1) ts
  let rest ← keyword? "in" rest
  let fuel := rest.length + 1
  let (source, rest) ← disjunctions (expression fuel) rest
  match rest with
  | [] => some (t, source, none)
  | _ => do
    let filter ← wholeExpression (← keyword? "if" rest)
    some (t, source, some filter)

/-- What takes statements from the front of some pieces. -/
abbrev BodyReader := List Piece → Option (List Statement × List Piece)

/-- The pieces after a block tag of one bare word. -/
def closing? (word : String) : List Piece → Option (List Piece)
  | .block [.word w] :: rest => if w = word then some rest else none
  | _ => none

/-- A body up to its closing tag, in which an `else` tag may divide it. -/
def divided (close : String) (body : List String → BodyReader) (ps : List Piece) :
    Option (List Statement × List Statement × List Piece) := do
  let (first, rest) ← body [close, "else"] ps
  match closing? close rest with
  | some rest => some (first, [], rest)
  | none => do
    let (second, rest) ← body [close] (← closing? "else" rest)
    (closing? close rest).map (first, second, ·)

/-- A branch after its keyword, with the `elif` branches that follow it. -/
def branches (body : List String → BodyReader) : Nat → List Token → List Piece → Option (Statement × List Piece)
  | 0, _, _ => none
  | fuel + 1, ts, ps => do
    let test ← wholeExpression ts
    let (yes, rest) ← body ["endif", "else", "elif"] ps
    match rest with
    | .block (.word "elif" :: ts) :: rest => do
      let (no, rest) ← branches body fuel ts rest
      some (.branch test yes [no], rest)
    | _ =>
      match closing? "endif" rest with
      | some rest => some (.branch test yes [], rest)
      | none => do
        let (no, rest) ← body ["endif"] (← closing? "else" rest)
        (closing? "endif" rest).map (.branch test yes no, ·)

/-- The statement that a block tag begins. -/
def statement (body : List String → BodyReader) (ts : List Token) (ps : List Piece) :
    Option (Statement × List Piece) :=
  match ts with
  | .word "if" :: ts => branches body (ps.length + 1) ts ps
  | .word "for" :: ts => do
    let (t, source, filter) ← loopHead ts
    let (rounds, otherwise, rest) ← divided "endfor" body ps
    some (.loop t source filter rounds otherwise, rest)
  | [.word "set", n] => do
    let (name, _) ← targetName [n]
    let (captured, ps) ← body ["endset"] ps
    (closing? "endset" ps).map (.capture name captured, ·)
  | .word "set" :: ts => do
    let (t, rest) ← assigned ts
    let e ← wholeExpression (← mark? "=" rest)
    some (.assign t e, ps)
  | _ => none

/-- Whether a block tag begins with one of these words. -/
def endsAt (ends : List String) : List Token → Bool
  | .word w :: _ => ends.contains w
  | _ => false

/-- Statements up to a block tag that begins with one of the words, which stays, or up to the end. -/
def body : Nat → List String → BodyReader
  | 0, _, _ => none
  | _ + 1, _, [] => some ([], [])
  | fuel + 1, ends, .text s :: ps =>
    (body fuel ends ps).map fun (ss, rest) => (.text s :: ss, rest)
  | fuel + 1, ends, .output ts :: ps => do
    let e ← wholeExpression ts
    let (ss, rest) ← body fuel ends ps
    some (.output e :: ss, rest)
  | fuel + 1, ends, .block ts :: ps =>
    if endsAt ends ts then some ([], .block ts :: ps)
    else do
      let (s, ps) ← statement (body fuel) ts ps
      let (ss, rest) ← body fuel ends ps
      some (s :: ss, rest)

end Reader

/-- The template that a text writes. -/
def ofText? (s : String) : Option Template := do
  let pieces ← Piece.ofText? s
  match Reader.body (2 * pieces.length + 1) [] pieces with
  | some (ss, []) => some ⟨ss⟩
  | _ => none

/-- Whether a text holds the opening mark of an expression or a statement. Other text is no template. -/
def isMarked (s : String) : Bool :=
  Text.contains s.toList ['\x7b', '\x7b'] || Text.contains s.toList ['\x7b', '%']

end PromptForm.Template
