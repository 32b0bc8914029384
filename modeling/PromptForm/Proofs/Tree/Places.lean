import PromptForm.Proofs.Component.Closure

/-! # Places in a tree

A place in a tree is given by the fragments and intrinsic elements around it and by what stands beside it in each of
them (`Node.Place`). What a walk meets at a layer depends on the nodes in it only through the rounds in which these are
walked (`Layer.traceAt_close`). -/

namespace PromptForm

/-- A fragment or an intrinsic element around a place, and the nodes in it before the place and after it. -/
structure Layer where
  /-- The element with its props, none for a fragment. -/
  element? : Option (Intrinsic × Fields)
  before : List Node
  after : List Node

namespace Layer

/-- The fragment or the element with certain nodes in it. -/
def close (layer : Layer) (nodes : List Node) : Node :=
  match layer.element? with
  | none => .fragment nodes
  | some (i, props) => .element i.tag props nodes

def around (layer : Layer) (n : Node) : List Node := layer.before ++ n :: layer.after

end Layer

/-- The layers around a place, the outermost first. -/
abbrev Node.Place := List Layer

namespace Node.Place

/-- The tree with a node at the place. -/
def put (place : Node.Place) (n : Node) : Node := place.foldr (fun layer inner => layer.close (layer.around inner)) n

/-- The tree up to the place: the place itself and what comes after it in each layer is left out. -/
def cut : Node.Place → Node
  | [] => .empty
  | layer :: place => layer.close (layer.before ++ if place.isEmpty then [] else [cut place])

/-- The elements around the place. -/
def depth (place : Node.Place) : Nat := place.countP (·.element?.isSome)

end Node.Place

/-! ### Walks through a layer -/

/-- How the nodes of a layer are walked: the room for elements and the sections around them, the scopes of the rounds,
    and the frame around all of them. -/
structure Entry where
  room : Nat
  sections : Nat
  scopes : List Scope
  frame? : Option Frame

namespace Entry

/-- What a round over some nodes meets. -/
def round (e : Entry) (s : Surroundings) (nodes : List Node) (inner : Scope) : Trace :=
  s.nodesTrace (s.elementTrace e.room) inner e.sections nodes

/-- What the rounds over some nodes meet. -/
def trace (e : Entry) (s : Surroundings) (nodes : List Node) : Trace :=
  (Trace.inTurn (e.scopes.map (e.round s nodes))).framedBy e.frame?

end Entry

/-- How a walk enters a layer: there is room for the element, its templates expand, its props fit, and its condition
    can be read. -/
def Layer.entered? (s : Surroundings) (layer : Layer) (room : Nat) (scope : Scope) (sections : Nat) : Option Entry :=
  match layer.element?, room with
  | none, room => some ⟨room, sections, [scope], none⟩
  | some _, 0 => none
  | some (i, props), room + 1 =>
    match s.expandProps scope props with
    | .error _ => none
    | .ok expanded =>
      if i.schema.violations (.object expanded) = [] ∧ i.malformed? expanded = none then
        some ⟨room, i.sectionsInside sections, i.scopes expanded scope, s.frame? i expanded sections⟩
      else none

namespace Layer
variable {s : Surroundings} {layer : Layer} {room : Nat} {scope : Scope} {sections : Nat}

theorem room_of_entered? {e : Entry} (h : layer.entered? s room scope sections = some e) :
    e.room + (if layer.element?.isSome then 1 else 0) = room := by
  obtain ⟨element?, before, after⟩ := layer
  cases element? with
  | none =>
    cases h
    rfl
  | some element =>
    cases room with
    | zero => cases h
    | succ room =>
      simp only [entered?] at h
      split at h
      · cases h
      · split at h <;> cases h
        rfl

theorem traceAt_close (hs : s.registry = Registry.standard) {e : Entry}
    (he : layer.entered? s room scope sections = some e) (nodes : List Node) :
    s.traceAt sections ⟨room, scope, layer.close nodes⟩ = e.trace s nodes := by
  obtain ⟨element?, before, after⟩ := layer
  cases element? with
  | none =>
    cases he
    exact (Trace.inTurn_singleton _).symm
  | some element =>
    obtain ⟨i, props⟩ := element
    cases room with
    | zero => cases he
    | succ room =>
      simp only [entered?] at he
      split at he
      · cases he
      · rename_i expanded hexpanded
        split at he
        · rename_i hfits
          cases he
          have hhandles := Surroundings.handles_intrinsic hs hexpanded hfits.1
          show s.elementTrace (room + 1) i.tag props nodes scope sections = _
          rw [Surroundings.elementTrace_intrinsic hhandles, Surroundings.intrinsicTrace_eq, hfits.2]
          rfl
        · cases he

/-- What stands in a layer that a walk does not enter makes no difference. -/
theorem traceAt_close_congr (hs : s.registry = Registry.standard) (he : layer.entered? s room scope sections = none)
    (nodes nodes' : List Node) : s.traceAt sections ⟨room, scope, layer.close nodes⟩ =
      s.traceAt sections ⟨room, scope, layer.close nodes'⟩ := by
  obtain ⟨element?, before, after⟩ := layer
  cases element? with
  | none => cases he
  | some element =>
    obtain ⟨i, props⟩ := element
    cases room with
    | zero => rfl
    | succ room =>
      show s.elementTrace (room + 1) i.tag props nodes scope sections =
        s.elementTrace (room + 1) i.tag props nodes' scope sections
      rw [Surroundings.elementTrace_eq, Surroundings.elementTrace_eq]
      cases hverdict : s.verdict i.tag props scope with
      | malformed m => rfl
      | waiting => rfl
      | refused expanded e => rfl
      | handled expanded handler =>
        have hhandles := Surroundings.verdict_eq_handled.mp hverdict
        cases (Registry.handler?_of_resolve hhandles.handler).symm.trans (Surroundings.handler?_intrinsic hs i)
        -- Of what is handled only a branch with a malformed condition is not entered, and there the walk ends.
        have hfits : i.schema.violations (.object expanded) = [] := Registry.resolve_fits hhandles.handler
        have hmalformed : i.malformed? expanded ≠ none := by
          simp only [entered?, hhandles.props] at he
          simpa [hfits] using he
        obtain ⟨m, hm⟩ := Option.ne_none_iff_exists'.mp hmalformed
        simp only [Surroundings.intrinsicTrace_eq, hm]

end Layer
end PromptForm
