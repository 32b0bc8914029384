import PromptForm.Template.Datum

/-!
# Templates

A template is a list of statements over expressions. The names that it reads from outside are those that
occur before a statement of the template itself has bound them.
-/

namespace PromptForm.Template

inductive Operator where
  | add | subtract | multiply | divide | divideWhole | remainder | power
  | join
  | equal | different | less | lessOrEqual | greater | greaterOrEqual
  /-- The left side occurs in the right side. -/
  | within
deriving DecidableEq, Repr

inductive Expr where
  | literal (d : Datum)
  | name (n : String)
  | list (items : List Expr)
  | map (entries : List (Expr × Expr))
  | negative (e : Expr)
  | negation (e : Expr)
  | binary (op : Operator) (left right : Expr)
  /-- The left side if it is not truthy, else the right side. -/
  | both (left right : Expr)
  /-- The left side if it is truthy, else the right side. -/
  | either (left right : Expr)
  | choice (test yes no : Expr)
  | attribute (e : Expr) (name : String)
  | entry (e key : Expr)
  | slice (e first last step : Expr)
  | filter (e : Expr) (name : String) (args : List Expr) (named : List (String × Expr))
  | test (e : Expr) (name : String) (args : List Expr)
  | call (function : String) (args : List Expr) (named : List (String × Expr))
  | method (e : Expr) (name : String) (args : List Expr)
  /-- A call of what is neither a name nor a method. -/
  | invoke (e : Expr) (args : List Expr)
deriving Inhabited

/-- What a loop or an assignment binds: a name, or one part for each member of a list. -/
inductive Target where
  | name (n : String)
  | parts (ts : List Target)
deriving Inhabited

mutual
/-- The names that a target binds. -/
def Target.names : Target → List String
  | .name n => [n]
  | .parts ts => Target.namesOfParts ts
termination_by structural t => t
def Target.namesOfParts : List Target → List String
  | [] => []
  | t :: ts => t.names ++ Target.namesOfParts ts
termination_by structural ts => ts
end

inductive Statement where
  | text (s : String)
  | output (e : Expr)
  | branch (test : Expr) (yes no : List Statement)
  /-- A loop over the members of a source that pass the filter, if there is one. -/
  | loop (target : Target) (source : Expr) (filter : Option Expr) (body otherwise : List Statement)
  | assign (target : Target) (e : Expr)
  /-- Binds a name to what a body prints. -/
  | capture (name : String) (body : List Statement)
deriving Inhabited

end Template

/-- A template as its statements. -/
structure Template where
  body : List Template.Statement

namespace Template

/-! ### Names -/

namespace Expr

mutual
/-- The names that an expression reads. -/
def names : Expr → List String
  | .literal _ => []
  | .name n => [n]
  | .list items => namesOfItems items
  | .map entries => namesOfEntries entries
  | .negative e => names e
  | .negation e => names e
  | .binary _ l r => names l ++ names r
  | .both l r => names l ++ names r
  | .either l r => names l ++ names r
  | .choice t y n => names t ++ names y ++ names n
  | .attribute e _ => names e
  | .entry e k => names e ++ names k
  | .slice e a b c => names e ++ names a ++ names b ++ names c
  | .filter e _ args named => names e ++ namesOfItems args ++ namesOfNamed named
  | .test e _ args => names e ++ namesOfItems args
  | .call f args named => f :: (namesOfItems args ++ namesOfNamed named)
  | .method e _ args => names e ++ namesOfItems args
  | .invoke e args => names e ++ namesOfItems args
termination_by structural e => e
def namesOfItems : List Expr → List String
  | [] => []
  | e :: es => names e ++ namesOfItems es
termination_by structural es => es
def namesOfEntries : List (Expr × Expr) → List String
  | [] => []
  | (k, e) :: es => names k ++ names e ++ namesOfEntries es
termination_by structural es => es
def namesOfNamed : List (String × Expr) → List String
  | [] => []
  | (_, e) :: es => names e ++ namesOfNamed es
termination_by structural es => es
end

end Expr

/-- The names that are not bound. -/
def outside (bound names : List String) : List String := names.filter fun n => !bound.contains n

/-- The names that a statement binds for those after it. -/
def Statement.binds : Statement → List String
  | .assign target _ => target.names
  | .capture name _ => [name]
  | .text _ | .output _ | .branch _ _ _ | .loop _ _ _ _ _ => []

mutual
/-- The names that a statement reads from outside, where some names are bound already. -/
def Statement.reads (bound : List String) : Statement → List String
  | .text _ => []
  | .output e => outside bound e.names
  | .branch test yes no => outside bound test.names ++ bodyReads bound yes ++ bodyReads bound no
  | .loop target source filter body otherwise =>
    outside bound source.names ++
      (match filter with
        | some e => outside (target.names ++ bound) e.names
        | none => []) ++
      bodyReads ("loop" :: (target.names ++ bound)) body ++ bodyReads bound otherwise
  | .assign _ e => outside bound e.names
  | .capture _ body => bodyReads bound body
termination_by structural s => s
def bodyReads (bound : List String) : List Statement → List String
  | [] => []
  | s :: rest => s.reads bound ++ bodyReads (s.binds ++ bound) rest
termination_by structural ss => ss
end

/-- The names that a template reads from outside. -/
def reads (t : Template) : List String := bodyReads [] t.body

end Template
end PromptForm
