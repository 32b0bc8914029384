import PromptForm.Pass.Walk

/-! # Traces

What a walk meets, in document order: text, elements that are left out, inputs, actions, and where sections
and items begin and end. A trace knows no mode and no draft. Which elements are reached depends on the tree
and the scope alone, so that a discovery and a rendering with the same answers meet the same events; a
draft comes from playing them (`Mode.play`). -/

namespace PromptForm

/-- What sets a part of the text off from the rest. -/
inductive Frame where
  | section (style : Output.SectionStyle)
  | item (indent marker : List Char)

/-- What a frame adds to the text before it, given its body. -/
def Frame.place : Frame → List Char → List Char → List Char
  | .section style, _, body => Output.sectionText style body
  | .item indent marker, out, body => Output.itemText indent marker out body

inductive Event where
  | text (cs : List Char)
  /-- An element that is left out. -/
  | fault (e : PropsError)
  | input (r : Requirement)
  | action (a : Action)
  | enter
  | leave (frame : Frame)

/-- The events of a walk, and the malformed expression that ended it. -/
structure Trace where
  events : List Event := []
  halted : Option Malformed := none

namespace Trace

def one (e : Event) : Trace := ⟨[e], none⟩

def stop (m : Malformed) : Trace := ⟨[], some m⟩

/-- What follows is met only if the walk has not ended. -/
def andThen (t u : Trace) : Trace := if t.halted.isSome then t else ⟨t.events ++ u.events, u.halted⟩

/-- A frame is left even if the walk ends inside it. -/
def framed (frame : Frame) (t : Trace) : Trace := ⟨.enter :: (t.events ++ [.leave frame]), t.halted⟩

end Trace

/-- What a walk meets at an element in a scope, inside so many sections. -/
abbrev ElementTrace := String → Fields → List Node → Scope → Nat → Trace

namespace Surroundings

mutual
def nodeTrace (s : Surroundings) (element : ElementTrace) (scope : Scope) (sections : Nat) : Node → Trace
  | .empty => {}
  | .text template =>
    match s.expand scope template with
    | .ok text => .one (.text text.toList)
    | .error m => .stop m
  | .literal text => .one (.text text.toList)
  | .fragment nodes => nodesTrace s element scope sections nodes
  | .element tag props children => element tag props children scope sections
termination_by structural n => n
def nodesTrace (s : Surroundings) (element : ElementTrace) (scope : Scope) (sections : Nat) : List Node → Trace
  | [] => {}
  | n :: ns => (nodeTrace s element scope sections n).andThen (nodesTrace s element scope sections ns)
termination_by structural ns => ns
end

def roundsTrace (step : Scope → Trace) (scope : Scope) (binding : String) (index : Option String) :
    Nat → List Value → Trace
  | _, [] => {}
  | i, item :: items =>
    (step (scope.inRound binding index i item)).andThen (roundsTrace step scope binding index (i + 1) items)

def branchTrace (body : Trace) (scope : Scope) (props : Fields) : Trace :=
  match Condition.ofValue ((Fields.get? "when" props).getD .null) with
  | .error m => .stop m
  | .ok condition =>
    if condition.references.all scope.isResolved && condition.holds scope then body else {}

def intrinsicTrace (s : Surroundings) (children : Scope → Nat → Trace) (i : Intrinsic) (props : Fields)
    (scope : Scope) (sections : Nat) : Trace :=
  match i with
  | .fragment => children scope sections
  | .branch => branchTrace (children scope sections) scope props
  | .loop =>
    roundsTrace (fun inner => children inner sections) scope ((Fields.text? "as" props).getD "item")
      (Fields.text? "index" props) 0 (loopItems scope (Fields.get? "items" props))
  | .section => (children scope (sections + 1)).framed (.section (s.sectionStyle props sections))
  | .item =>
    (children scope sections).framed
      (.item s.ctx.indent.toList ((Fields.text? "marker" props).getD "-").toList)

/-- An input is one event. Any other component acts, if it calls for an action, and stands for a node. -/
def componentTrace (s : Surroundings) (node : Node → Trace) (c : Component) (tag : String) (props : Fields)
    (children : List Node) : Trace :=
  match c.requirement props with
  | .error e => .one (.fault e)
  | .ok (some r) => .one (.input r)
  | .ok none =>
    let actions : Trace := ⟨(c.action? props s.ctx).toList.map .action, none⟩
    actions.andThen
      (match c.render ⟨tag, props, children, none⟩ s.ctx with
        | .ok n => node n
        | .error e => .one (.fault e))

/-- An element that has room for as many elements inside each other, itself included. -/
def elementTrace (s : Surroundings) : Nat → ElementTrace
  | 0, tag, _, _, _, _ => .one (.fault (.depthExceeded tag maxDepth))
  | room + 1, tag, props, children, scope, sections =>
    match s.isWaiting tag props scope with
    | .error m => .stop m
    | .ok true => {}
    | .ok false =>
      match s.expandProps scope props with
      | .error m => .stop m
      | .ok props =>
        match s.registry.resolve tag props with
        | .error e => .one (.fault e)
        | .ok (.intrinsic i) =>
          s.intrinsicTrace (fun inner sections => s.nodesTrace (s.elementTrace room) inner sections children) i
            props scope sections
        | .ok (.component c) =>
          s.componentTrace (s.nodeTrace (s.elementTrace room) scope sections) c tag props children

/-- What a walk over a tree meets with some answers. -/
def trace (s : Surroundings) (tree : Node) (answers : Fields) : Trace :=
  s.nodeTrace (s.elementTrace maxDepth) ⟨answers, []⟩ 0 tree

end Surroundings

/-! ### Verdicts -/

/-- What a walk decides about an element in a scope before it does anything with it. -/
inductive Verdict where
  /-- The walk ends. -/
  | malformed (m : Malformed)
  /-- An input whose name is not known yet. -/
  | waiting
  /-- The props do not fit, or the tag means nothing. -/
  | refused (expanded : Fields) (e : PropsError)
  | handled (expanded : Fields) (h : Handler)

namespace Verdict

/-- First it counts whether the walk waits at the element, then what its props expand to, and then what they resolve to. -/
def of (resolve : Fields → Except PropsError Handler) : Except Malformed Bool → Except Malformed Fields → Verdict
  | .error m, _ => .malformed m
  | .ok true, _ => .waiting
  | .ok false, .error m => .malformed m
  | .ok false, .ok expanded =>
    match resolve expanded with
    | .error e => .refused expanded e
    | .ok h => .handled expanded h

variable {resolve : Fields → Except PropsError Handler} {waiting : Except Malformed Bool}
  {outcome : Except Malformed Fields} {expanded : Fields}

theorem of_eq_refused {e : PropsError} : of resolve waiting outcome = .refused expanded e ↔
    waiting = .ok false ∧ outcome = .ok expanded ∧ resolve expanded = .error e := by
  constructor
  · fun_cases of resolve waiting outcome with
    | case4 fields e' hresolve =>
      intro hverdict
      cases hverdict
      exact ⟨rfl, rfl, hresolve⟩
    | _ => exact nofun
  · rintro ⟨rfl, rfl, hresolve⟩
    simp only [of, hresolve]

theorem of_eq_handled {h : Handler} : of resolve waiting outcome = .handled expanded h ↔
    waiting = .ok false ∧ outcome = .ok expanded ∧ resolve expanded = .ok h := by
  constructor
  · fun_cases of resolve waiting outcome with
    | case5 fields h' hresolve =>
      intro hverdict
      cases hverdict
      exact ⟨rfl, rfl, hresolve⟩
    | _ => exact nofun
  · rintro ⟨rfl, rfl, hresolve⟩
    simp only [of, hresolve]

end Verdict

namespace Surroundings

/-- A walk and its trace decide alike (`elementTrace_eq`, `Setting.element_eq`), and go on by the verdict. -/
def verdict (s : Surroundings) (tag : String) (props : Fields) (scope : Scope) : Verdict :=
  .of (s.registry.resolve tag) (s.isWaiting tag props scope) (s.expandProps scope props)

theorem elementTrace_eq (s : Surroundings) (room : Nat) (tag : String) (props : Fields) (children : List Node)
    (scope : Scope) (sections : Nat) : s.elementTrace (room + 1) tag props children scope sections =
      match s.verdict tag props scope with
      | .malformed m => .stop m
      | .waiting => {}
      | .refused _ e => .one (.fault e)
      | .handled expanded (.intrinsic i) =>
        s.intrinsicTrace (fun inner sections => s.nodesTrace (s.elementTrace room) inner sections children) i expanded
          scope sections
      | .handled expanded (.component c) =>
        s.componentTrace (s.nodeTrace (s.elementTrace room) scope sections) c tag expanded children := by
  unfold elementTrace verdict Verdict.of
  rcases s.isWaiting tag props scope with m | (_ | _)
  · rfl
  · rcases s.expandProps scope props with m | expanded
    · rfl
    · dsimp only
      rcases s.registry.resolve tag expanded with e | (i | c) <;> rfl
  · rfl

end Surroundings

theorem Setting.element_eq (s : Setting) (room : Nat) (tag : String) (props : Fields) (children : List Node)
    (scope : Scope) (sections : Nat) (d : Draft) : s.element (room + 1) tag props children scope sections d =
      match s.verdict tag props scope with
      | .malformed m => d.halt m
      | .waiting => d
      | .refused _ e => d.skip e
      | .handled expanded (.intrinsic i) =>
        s.intrinsic (fun inner sections => s.walkAll (s.element room) inner sections children) i expanded scope sections d
      | .handled expanded (.component c) =>
        s.component (s.walk (s.element room) scope sections) c tag expanded children scope d := by
  unfold element Surroundings.verdict Verdict.of
  rcases s.isWaiting tag props scope with m | (_ | _)
  · rfl
  · rcases s.expandProps scope props with m | expanded
    · rfl
    · dsimp only
      rcases s.registry.resolve tag expanded with e | (i | c) <;> rfl
  · rfl

/-! ### Outcomes -/

/-- Outcomes that a map makes equal are the same error, or results that it makes equal. -/
theorem outcomes_of_map_eq {ε α β : Type} {f : α → β} {x y : Except ε α} (h : x.map f = y.map f) :
    (∃ e, x = .error e ∧ y = .error e) ∨ ∃ a b, x = .ok a ∧ y = .ok b ∧ f a = f b := by
  cases x with
  | error e =>
    cases y with
    | error e' =>
      cases h
      exact .inl ⟨e, rfl, rfl⟩
    | ok b => cases h
  | ok a =>
    cases y with
    | error e => cases h
    | ok b => exact .inr ⟨a, b, rfl, rfl, Except.ok.inj h⟩

/-! ### Playing a trace -/

/-- A draft, and the texts around the frames that are open, the innermost first. -/
abbrev Desk := Draft × List (List Char)

namespace Mode

/-- An input: a name met before is a fault, otherwise its value is printed. -/
def take (mode : Mode) (answers : Fields) (r : Requirement) (d : Draft) : Draft :=
  if d.seen.contains r.name then d.skip (.duplicateInput r.name)
  else
    let (value, d) := mode.answer ⟨answers, []⟩ r { d with seen := r.name :: d.seen }
    d.write ((value.map Value.display).getD "").toList

/-- What an event does. Inside a frame the text begins anew. -/
def meet (mode : Mode) (answers : Fields) : Desk → Event → Desk
  | (d, outer), .text cs => (d.write cs, outer)
  | (d, outer), .fault e => (d.skip e, outer)
  | (d, outer), .input r => (mode.take answers r d, outer)
  | (d, outer), .action a => ({ d with actions := d.actions ++ [a] }, outer)
  | (d, outer), .enter => ({ d with text := [] }, d.text :: outer)
  | (d, text :: outer), .leave frame => ({ d with text := text ++ frame.place text d.text }, outer)
  | (d, []), .leave _ => (d, [])

/-- What a pass gathers from events. -/
def play (mode : Mode) (answers : Fields) (events : List Event) (desk : Desk) : Desk :=
  events.foldl (mode.meet answers) desk

end Mode
end PromptForm
