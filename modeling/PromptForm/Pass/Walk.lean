import PromptForm.Pass.Basic
import PromptForm.Condition.Reader

/-!
# The walk

How a pass goes through nodes. An element is checked in this order: nesting, the name of an input, its
templates, its tag and props. Then an intrinsic element arranges its children, and a component is replaced
by the node it stands for. The walk ends because elements nest to a limit only.
-/

namespace PromptForm

/-- Elements inside each other that a pass walks. -/
def maxDepth : Nat := 128

/-- What a pass does with an element in a scope, inside so many sections. -/
abbrev ElementStep := String → Fields → List Node → Scope → Nat → Draft → Draft

namespace Setting

mutual
/-- Walks a node, leaving elements to a step. -/
def walk (s : Setting) (element : ElementStep) (scope : Scope) (sections : Nat) : Node → Draft → Draft
  | .empty, d => d
  | .text template, d =>
    match s.expand scope template with
    | .ok text => d.write text.toList
    | .error m => d.halt m
  | .literal text, d => d.write text.toList
  | .fragment nodes, d => walkAll s element scope sections nodes d
  | .element tag props children, d => element tag props children scope sections d
termination_by structural n => n
/-- Walks nodes in turn until the pass ends. -/
def walkAll (s : Setting) (element : ElementStep) (scope : Scope) (sections : Nat) :
    List Node → Draft → Draft
  | [], d => d
  | n :: ns, d => (walk s element scope sections n d).andThen (walkAll s element scope sections ns)
termination_by structural ns => ns
end

theorem walkAll_singleton {s : Setting} {element : ElementStep} {scope : Scope} {sections : Nat} (n : Node) (d : Draft) :
    s.walkAll element scope sections [n] d = s.walk element scope sections n d := by
  show Draft.andThen _ _ = _
  unfold Draft.andThen
  split <;> rfl

/-- Walks in a text of its own and adds what `place` makes of the text before and the text walked. -/
def collected (step : Draft → Draft) (place : List Char → List Char → List Char) (d : Draft) : Draft :=
  let inner := step { d with text := [] }
  { inner with text := d.text ++ place d.text inner.text }

/-- One round of a loop for each item, until the pass ends. -/
def rounds (step : Scope → Draft → Draft) (scope : Scope) (binding : String) (index : Option String) :
    Nat → List Value → Draft → Draft
  | _, [], d => d
  | i, item :: items, d =>
    (step (scope.inRound binding index i item) d).andThen (rounds step scope binding index (i + 1) items)

/-- What a condition opens, once all names it reads have a meaning. -/
def branch (step : Draft → Draft) (scope : Scope) (props : Fields) (d : Draft) : Draft :=
  match Condition.ofValue ((Fields.get? "when" props).getD .null) with
  | .error m => d.halt m
  | .ok condition =>
    if condition.references.all scope.isResolved && condition.holds scope then step d else d

/-- An intrinsic element, given how its children are walked in a scope and a number of sections. -/
def intrinsic (s : Setting) (children : Scope → Nat → Draft → Draft) (i : Intrinsic) (props : Fields)
    (scope : Scope) (sections : Nat) (d : Draft) : Draft :=
  match i with
  | .fragment => children scope sections d
  | .branch => branch (children scope sections) scope props d
  | .loop =>
    rounds (fun inner => children inner sections) scope ((Fields.text? "as" props).getD "item")
      (Fields.text? "index" props) 0 (loopItems scope (Fields.get? "items" props)) d
  | .section =>
    collected (children scope (sections + 1))
      (fun _ body => Output.sectionText (s.sectionStyle props sections) body) d
  | .item =>
    let marker := ((Fields.text? "marker" props).getD "-").toList
    collected (children scope sections) (Output.itemText s.ctx.indent.toList marker) d

/-- The value of the input that a component asks for, or what keeps the component from rendering. -/
def resolved (s : Setting) (c : Component) (props : Fields) (scope : Scope) (d : Draft) :
    Except PropsError (Option Value × Draft) :=
  match c.requirement props with
  | .error e => .error e
  | .ok none => .ok (none, d)
  | .ok (some r) =>
    if d.seen.contains r.name then .error (.duplicateInput r.name)
    -- A name counts as met even if its input gets no value.
    else .ok (s.mode.answer scope r { d with seen := r.name :: d.seen })

/-- A component, given how the node that it stands for is walked. -/
def component (s : Setting) (node : Node → Draft → Draft) (c : Component) (tag : String) (props : Fields)
    (children : List Node) (scope : Scope) (d : Draft) : Draft :=
  match s.resolved c props scope d with
  | .error e => d.skip e
  | .ok (value, d) =>
    -- The action stays even if the node cannot be made.
    let d := { d with actions := d.actions ++ (c.action? props s.ctx).toList }
    match c.render ⟨tag, props, children, value⟩ s.ctx with
    | .ok n => node n d
    | .error e => d.skip e

/-- An element that has room for as many elements inside each other, itself included. -/
def element (s : Setting) : Nat → ElementStep
  | 0, tag, _, _, _, _, d => d.skip (.depthExceeded tag maxDepth)
  | room + 1, tag, props, children, scope, sections, d =>
    -- The name of an input is looked at first: while it is open the element is left out without an error.
    match s.isWaiting tag props scope with
    | .error m => d.halt m
    | .ok true => d
    | .ok false =>
      match s.expandProps scope props with
      | .error m => d.halt m
      | .ok props =>
        match s.registry.resolve tag props with
        | .error e => d.skip e
        | .ok (.intrinsic i) =>
          s.intrinsic (fun inner sections => s.walkAll (s.element room) inner sections children) i props scope
            sections d
        | .ok (.component c) =>
          s.component (s.walk (s.element room) scope sections) c tag props children scope d

/-- What a pass over a tree gathers with some answers. -/
def run (s : Setting) (tree : Node) (answers : Fields) : Draft :=
  s.walk (s.element maxDepth) ⟨answers, []⟩ 0 tree {}

end Setting
end PromptForm
