import PromptForm.Component.Registry
import PromptForm.Template.Expansion
import PromptForm.Output.Block
import PromptForm.Output.NormalForm

/-!
# Passes over a tree

A pass walks a tree once and gathers text, inputs, actions and errors in a draft. Discovery notes inputs
that have no answer; a final pass puts in what stands for them. A malformed expression ends the pass, and
what was gathered until then stays.
-/

namespace PromptForm

/-- What a pass is for. -/
inductive Mode where
  | discovery
  | final
deriving DecidableEq, Repr

/-- What passes over a tree read besides the tree and the answers. -/
structure Surroundings where
  registry : Registry
  ctx : Context

/-- What stays the same during a pass. -/
structure Setting extends Surroundings where
  mode : Mode

/-- What a pass has gathered so far. -/
structure Draft where
  text : List Char := []
  /-- The names of the inputs met. -/
  seen : List String := []
  /-- Inputs without an answer, in the order met. -/
  requirements : List Requirement := []
  actions : List Action := []
  errors : List RenderError := []
  /-- The malformed expression that ended the pass. -/
  halted : Option Malformed := none

namespace Draft

def write (d : Draft) (cs : List Char) : Draft := { d with text := d.text ++ cs }

def report (d : Draft) (e : RenderError) : Draft := { d with errors := d.errors ++ [e] }

/-- Reports what is wrong with an element and goes on. -/
def skip (d : Draft) (e : PropsError) : Draft := d.report (.props e)

def halt (d : Draft) (m : Malformed) : Draft := { d with halted := some m }

/-- A step that an ended pass does not take. -/
def andThen (d : Draft) (step : Draft → Draft) : Draft := if d.halted.isSome then d else step d

/-- All errors of a pass, last the one that ended it. -/
def allErrors (d : Draft) : List RenderError := d.errors ++ (d.halted.map RenderError.malformed).toList

end Draft

namespace Surroundings

/-- The fields that templates see in a scope. -/
def fieldsIn (s : Surroundings) (scope : Scope) : Fields := scope.templateFields s.ctx.templateValue

/-- Author text in a scope. -/
def expand (s : Surroundings) (scope : Scope) (text : String) : Except Malformed String :=
  Template.expand (s.fieldsIn scope) text

/-- A text with its templates expanded; other values stay. -/
def expandText (s : Surroundings) (scope : Scope) : Value → Except Malformed Value
  | .string text => (s.expand scope text).map .string
  | v => .ok v

/-- A prop with its templates expanded: a text, or the texts among the items of a list. -/
def expandValue (s : Surroundings) (scope : Scope) : Value → Except Malformed Value
  | .list items => (items.mapM (s.expandText scope)).map .list
  | v => s.expandText scope v

/-- Props with their templates expanded, in the order of their names. -/
def expandProps (s : Surroundings) (scope : Scope) (props : Fields) : Except Malformed Fields :=
  props.mapM fun (k, v) => (s.expandValue scope v).map (k, ·)

/-- Whether a prop reads a name that has no meaning yet; the environment always has one. -/
def isUndecided (scope : Scope) (prop : Option Value) : Except Malformed Bool :=
  match prop with
  | some (.string text) =>
    (Template.namesIn text).map fun names => names.any fun n => n != "env" && !scope.isResolved n
  | _ => .ok false

/-- Whether an element is an input whose name is not decided yet. -/
def isWaiting (s : Surroundings) (tag : String) (props : Fields) (scope : Scope) : Except Malformed Bool :=
  if s.registry.asksInput tag then isUndecided scope (Fields.get? "name" props) else .ok false

/-- The style of a section. -/
def sectionStyle (s : Surroundings) (props : Fields) (sections : Nat) : Output.SectionStyle where
  delimiter := ((Fields.text? "delimiter" props).bind Delimiter.ofName?).getD s.ctx.delimiter
  name := ((Fields.text? "name" props).getD "").toList
  title := (Fields.text? "title" props).map (·.toList)
  depth := sections
  trims := s.ctx.trim

end Surroundings

namespace Mode

/-- What an input without an answer gets in a final pass. -/
def substitute (r : Requirement) (d : Draft) : Option Value × Draft :=
  match r.default with
  | some v => (some v, d)
  | none => if r.required then (none, d.report (.missingInput r.name)) else (some r.kind.emptyValue, d)

/-- The value that an input prints, if it has one. -/
def answer (mode : Mode) (scope : Scope) (r : Requirement) (d : Draft) : Option Value × Draft :=
  match scope.answer? r.name with
  | some v => (some v, d)
  | none =>
    match mode with
    | .discovery => (none, { d with requirements := d.requirements ++ [r] })
    | .final => substitute r d

end Mode

/-- The items that a loop runs over: those of a list, the parts of a comma list, or one value; a text
    names the value. -/
def loopItems (scope : Scope) (prop : Option Value) : List Value :=
  let value :=
    match prop with
    | some (.string name) => scope.get (Text.trimmed name)
    | some v => v
    | none => .null
  match value with
  | .null => []
  | .list items => items
  | .string text => Value.ofCommaList text
  | v => [v]

end PromptForm
