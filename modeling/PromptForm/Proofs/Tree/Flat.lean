import PromptForm.Proofs.Trace.Playing
import PromptForm.Proofs.Trace.Sites
import PromptForm.Pass.Result

/-! # Trees without grouping

Fragments group nodes and empty nodes are no content. A tree in which every fragment and every list of children is
flattened (`Node.flattened`) is therefore the same prompt. Each component looks at its children in its own way, for
content, for sections that are there already, for steps to be numbered or for text to be taken literally; it stands
for the same node up to grouping (`Component.render_flattened`). Then a walk over either tree meets the same events,
and the passes find the same. -/

namespace PromptForm

namespace Node

mutual
/-- The node with every fragment and every list of children in it flattened, at any depth. -/
def flattened : Node → Node
  | .fragment nodes => .fragment (flatten (flattenedAll nodes))
  | .element tag props children => .element tag props (flatten (flattenedAll children))
  | node => node
termination_by structural n => n
def flattenedAll : List Node → List Node
  | [] => []
  | n :: ns => flattened n :: flattenedAll ns
termination_by structural ns => ns
end

/-! ### Lists of nodes -/

theorem flattenedAll_eq_map (ns : List Node) : flattenedAll ns = ns.map flattened := by
  induction ns with
  | nil => rfl
  | cons n ns ih => exact congrArg (n.flattened :: ·) ih

theorem toLiterals_eq_map (ns : List Node) : toLiterals ns = ns.map toLiteral := by
  induction ns with
  | nil => rfl
  | cons n ns ih => exact congrArg (n.toLiteral :: ·) ih

theorem flatten_append (ns ms : List Node) : flatten (ns ++ ms) = flatten ns ++ flatten ms := by
  induction ns with
  | nil => rfl
  | cons n ns ih => simp [flatten, ih]

mutual
theorem flatten_spliced : ∀ n : Node, flatten n.spliced = n.spliced
  | .empty => rfl
  | .fragment nodes => flatten_flatten nodes
  | .text _ | .literal _ | .element _ _ _ => rfl
termination_by structural n => n
/-- What is flat stays as it is. -/
theorem flatten_flatten : ∀ ns : List Node, flatten (flatten ns) = flatten ns
  | [] => rfl
  | n :: ns => by rw [flatten, flatten_append, flatten_spliced n, flatten_flatten ns]
termination_by structural ns => ns
end

mutual
theorem spliced_flattened : ∀ n : Node, n.flattened.spliced = flattenedAll n.spliced
  | .empty => rfl
  | .fragment nodes => by
    show flatten (flatten (flattenedAll nodes)) = flattenedAll (flatten nodes)
    rw [flatten_flatten, flatten_flattenedAll nodes]
  | .text _ | .literal _ | .element _ _ _ => rfl
termination_by structural n => n
/-- It makes no difference whether a list or its nodes are flattened first. -/
theorem flatten_flattenedAll : ∀ ns : List Node, flatten (flattenedAll ns) = flattenedAll (flatten ns)
  | [] => rfl
  | n :: ns => by
    rw [flattenedAll, flatten, flatten, spliced_flattened n, flatten_flattenedAll ns]
    simp [flattenedAll_eq_map]
termination_by structural ns => ns
end

mutual
/-- Flattening at all depths changes nothing the second time. -/
theorem flattened_flattened : ∀ n : Node, n.flattened.flattened = n.flattened
  | .empty | .text _ | .literal _ => rfl
  | .fragment nodes => by
    show Node.fragment (flatten (flattenedAll (flatten (flattenedAll nodes)))) =
      .fragment (flatten (flattenedAll nodes))
    rw [← flatten_flattenedAll, flatten_flatten, flattenedAll_flattenedAll nodes]
  | .element tag props children => by
    show Node.element tag props (flatten (flattenedAll (flatten (flattenedAll children)))) =
      .element tag props (flatten (flattenedAll children))
    rw [← flatten_flattenedAll, flatten_flatten, flattenedAll_flattenedAll children]
termination_by structural n => n
theorem flattenedAll_flattenedAll : ∀ ns : List Node, flattenedAll (flattenedAll ns) = flattenedAll ns
  | [] => rfl
  | n :: ns => by
    show n.flattened.flattened :: _ = n.flattened :: _
    rw [flattened_flattened n, flattenedAll_flattenedAll ns]
termination_by structural ns => ns
end

/-! ### Regrouped lists -/

/-- Lists that are the same once flattened at all depths. -/
def Regrouped (ns ms : List Node) : Prop := flatten (flattenedAll ns) = flatten (flattenedAll ms)

theorem regrouped_flat (ns : List Node) : Regrouped (flatten (flattenedAll ns)) ns := by
  unfold Regrouped
  rw [← flatten_flattenedAll, flatten_flatten, flattenedAll_flattenedAll]

namespace Regrouped
variable {ns ms ns' ms' : List Node}

theorem refl (ns : List Node) : Regrouped ns ns := rfl

theorem append (h : Regrouped ns ms) (h' : Regrouped ns' ms') : Regrouped (ns ++ ns') (ms ++ ms') := by
  unfold Regrouped at *
  simp only [flattenedAll_eq_map, List.map_append, flatten_append] at *
  rw [h, h']

theorem fragment (h : Regrouped ns ms) : (Node.fragment ns).flattened = (Node.fragment ms).flattened :=
  congrArg Node.fragment h

theorem element (h : Regrouped ns ms) (tag : String) (props : Fields) :
    (Node.element tag props ns).flattened = (Node.element tag props ms).flattened :=
  congrArg (Node.element tag props) h

/-- A fragment of a list is like the list. -/
theorem grouped (ns : List Node) : Regrouped [.fragment ns] ns := by
  unfold Regrouped
  show flatten (flatten (flattenedAll ns)) ++ [] = _
  rw [List.append_nil, flatten_flatten]

end Regrouped

/-! ### What components ask of their children -/

theorem hasContent_eq_any (ns : List Node) : hasContent ns = ns.any shows := by
  induction ns with
  | nil => rfl
  | cons n ns ih => exact congrArg (n.shows || ·) ih

mutual
theorem hasContent_spliced : ∀ n : Node, hasContent n.spliced = n.shows
  | .empty => rfl
  | .fragment nodes => hasContent_flatten nodes
  | .text _ | .literal _ | .element _ _ _ => Bool.or_false _
termination_by structural n => n
theorem hasContent_flatten : ∀ ns : List Node, hasContent (flatten ns) = hasContent ns
  | [] => rfl
  | n :: ns => by
    have hn := hasContent_spliced n
    have hns := hasContent_flatten ns
    rw [hasContent_eq_any] at hn hns
    rw [flatten, hasContent_eq_any, List.any_append, hn, hns, hasContent]
termination_by structural ns => ns
end

mutual
theorem shows_flattened : ∀ n : Node, n.flattened.shows = n.shows
  | .empty | .text _ | .literal _ | .element _ _ _ => rfl
  | .fragment nodes => (hasContent_flatten (flattenedAll nodes)).trans (hasContent_flattenedAll nodes)
termination_by structural n => n
theorem hasContent_flattenedAll : ∀ ns : List Node, hasContent (flattenedAll ns) = hasContent ns
  | [] => rfl
  | n :: ns => by
    show (n.flattened.shows || hasContent (flattenedAll ns)) = (n.shows || hasContent ns)
    rw [shows_flattened n, hasContent_flattenedAll ns]
termination_by structural ns => ns
end

mutual
theorem toLiterals_spliced : ∀ n : Node, toLiterals n.spliced = n.toLiteral.spliced
  | .empty | .text _ | .literal _ | .element _ _ _ => rfl
  | .fragment nodes => toLiterals_flatten nodes
termination_by structural n => n
theorem toLiterals_flatten : ∀ ns : List Node, toLiterals (flatten ns) = flatten (toLiterals ns)
  | [] => rfl
  | n :: ns => by
    rw [flatten, toLiterals_eq_map, List.map_append, ← toLiterals_eq_map, ← toLiterals_eq_map, toLiterals_spliced n,
      toLiterals_flatten ns]
    rfl
termination_by structural ns => ns
end

mutual
theorem toLiteral_flattened : ∀ n : Node, n.flattened.toLiteral = n.toLiteral.flattened
  | .empty | .text _ | .literal _ | .element _ _ _ => rfl
  | .fragment nodes => by
    show Node.fragment (toLiterals (flatten (flattenedAll nodes))) =
      .fragment (flatten (flattenedAll (toLiterals nodes)))
    rw [toLiterals_flatten, toLiterals_flattenedAll nodes]
termination_by structural n => n
theorem toLiterals_flattenedAll : ∀ ns : List Node, toLiterals (flattenedAll ns) = flattenedAll (toLiterals ns)
  | [] => rfl
  | n :: ns => by
    show n.flattened.toLiteral :: _ = n.toLiteral.flattened :: _
    rw [toLiteral_flattened n, toLiterals_flattenedAll ns]
termination_by structural ns => ns
end

theorem tag?_flattened (n : Node) : n.flattened.tag? = n.tag? := by
  cases n <;> rfl

/-- Steps are counted, whatever their children are. -/
theorem numbered_flattenedAll (ns : List Node) (count : Nat) :
    Component.numbered count (flattenedAll ns) = flattenedAll (Component.numbered count ns) := by
  induction ns generalizing count with
  | nil => rfl
  | cons n ns ih =>
    cases n with
    | element tag props children =>
      simp only [flattenedAll, flattened, Component.numbered]
      split
      · exact congrArg _ (ih (count + 1))
      · exact congrArg _ (ih count)
    | _ => exact congrArg _ (ih count)

namespace Regrouped
variable {ns ms : List Node}

theorem hasContent (h : Regrouped ns ms) : Node.hasContent ns = Node.hasContent ms := by
  rw [← hasContent_flattenedAll ns, ← hasContent_flattenedAll ms, ← hasContent_flatten, h, hasContent_flatten]

theorem toLiterals (h : Regrouped ns ms) : Regrouped (Node.toLiterals ns) (Node.toLiterals ms) := by
  unfold Regrouped at *
  rw [← toLiterals_flattenedAll, ← toLiterals_flattenedAll, ← toLiterals_flatten, ← toLiterals_flatten, h]

theorem numbered (h : Regrouped ns ms) (count : Nat) :
    Regrouped (Component.numbered count (flatten ns)) (Component.numbered count (flatten ms)) := by
  unfold Regrouped at *
  rw [← numbered_flattenedAll, ← numbered_flattenedAll, ← flatten_flattenedAll, ← flatten_flattenedAll, h]

/-- The same tags stand in the lists. -/
theorem any_tag (h : Regrouped ns ms) (tag : String) :
    ((flatten ns).any fun n => n.tag? = some tag) = (flatten ms).any fun n => n.tag? = some tag := by
  have hflat : ∀ ns : List Node, ((flatten ns).any fun n => n.tag? = some tag) =
      (flatten (flattenedAll ns)).any fun n => n.tag? = some tag := fun ns => by
    rw [flatten_flattenedAll, flattenedAll_eq_map, List.any_map]
    simp [Function.comp_def, tag?_flattened]
  rw [hflat ns, hflat ms, h]

theorem inFragment (h : Regrouped ns ms) : Regrouped [.fragment ns] [.fragment ms] :=
  (grouped ns).trans (h.trans (grouped ms).symm)

end Regrouped
end Node

/-! ### Components -/

namespace Component
open Node
variable {ns ms : List Node}

theorem sectionOf_flattened (h : Regrouped ns ms) (name : String) :
    (sectionOf name (.fragment ns)).flattened = (sectionOf name (.fragment ms)).flattened :=
  h.inFragment.element _ _

theorem sectionIfContent_flattened (h : Regrouped ns ms) (name : String) :
    (sectionIfContent name ns).flattened = (sectionIfContent name ms).flattened := by
  unfold sectionIfContent
  rw [h.hasContent]
  split
  · exact sectionOf_flattened h name
  · rfl

theorem addition_regrouped (h : Regrouped ns ms) (kind : DefaultKind) (tag : String) (props : Fields)
    (v : Option Value) : kind.addition ⟨tag, props, ns, v⟩ = kind.addition ⟨tag, props, ms, v⟩ := by
  simp only [DefaultKind.addition, h.any_tag]

theorem prompt_flattened (h : Regrouped ns ms) (tag : String) (props : Fields) (v : Option Value) :
    (renderPrompt ⟨tag, props, ns, v⟩).map flattened = (renderPrompt ⟨tag, props, ms, v⟩).map flattened := by
  unfold renderPrompt
  simp only [addition_regrouped h]
  cases DefaultKind.addition .role ⟨tag, props, ms, v⟩ with
  | error e => rfl
  | ok role =>
    cases DefaultKind.addition .format ⟨tag, props, ms, v⟩ with
    | error e => rfl
    | ok format =>
      cases DefaultKind.addition .constraints ⟨tag, props, ms, v⟩ with
      | error e => rfl
      | ok constraints =>
        have hnodes := (((Regrouped.refl role).append h).append (.refl format)).append (.refl constraints)
        exact congrArg Except.ok hnodes.fragment

theorem role_flattened (h : Regrouped ns ms) (props : Fields) :
    (renderRole props ns).flattened = (renderRole props ms).flattened := by
  unfold renderRole
  rw [h.hasContent]
  split
  · exact sectionOf_flattened h _
  · rfl

theorem simpleSection_flattened (h : Regrouped ns ms) (name : String) (props : Fields) :
    (renderSimpleSection name props ns).flattened = (renderSimpleSection name props ms).flattened := by
  unfold renderSimpleSection
  rw [h.hasContent]
  split
  · exact h.element _ _
  · rfl

/-- A component stands for the same node up to grouping, given children that are the same up to grouping. -/
theorem render_flattened (h : Regrouped ns ms) (c : Component) (tag : String) (props : Fields) (v : Option Value)
    (ctx : Context) :
    (c.render ⟨tag, props, ns, v⟩ ctx).map flattened = (c.render ⟨tag, props, ms, v⟩ ctx).map flattened := by
  cases c with
  | prompt => exact prompt_flattened h tag props v
  | role => exact congrArg Except.ok (role_flattened h props)
  | format => exact congrArg Except.ok (sectionOf_flattened (Regrouped.append (.refl _) h) _)
  | constraints => exact congrArg Except.ok (sectionIfContent_flattened h _)
  | constraint => exact congrArg Except.ok ((Regrouped.append (.refl [_]) h).element _ _)
  | steps => exact congrArg Except.ok (sectionIfContent_flattened (h.numbered 0) _)
  | listItem => exact congrArg Except.ok (h.element _ _)
  | examples => exact congrArg Except.ok (sectionIfContent_flattened h _)
  | example_ => exact congrArg Except.ok (Regrouped.element ((Regrouped.append (.refl _) h).append (.refl _)) _ _)
  | simpleSection name => exact congrArg Except.ok (simpleSection_flattened h name props)
  | code => exact congrArg Except.ok (Regrouped.fragment ((Regrouped.append (.refl [_]) h.toLiterals).append (.refl _)))
  | postExecution => exact congrArg Except.ok h.fragment
  | _ => rfl

end Component

/-! ### Traces -/

namespace Surroundings
variable {s : Surroundings} {elements : ElementTrace} {scope : Scope} {sections : Nat}

mutual
theorem nodesTrace_spliced : ∀ n : Node,
    s.nodesTrace elements scope sections n.spliced = s.nodeTrace elements scope sections n
  | .empty => rfl
  | .fragment nodes => nodesTrace_flatten nodes
  | .text _ | .literal _ | .element _ _ _ => Trace.andThen_nil _
termination_by structural n => n
/-- Grouping is not met. -/
theorem nodesTrace_flatten : ∀ ns : List Node,
    s.nodesTrace elements scope sections (Node.flatten ns) = s.nodesTrace elements scope sections ns
  | [] => rfl
  | n :: ns => by rw [Node.flatten, nodesTrace_append, nodesTrace_spliced n, nodesTrace_flatten ns, nodesTrace]
termination_by structural ns => ns
end

/-- What is met at elements does not depend on the grouping of their children. -/
def IgnoresGrouping (elements : ElementTrace) : Prop := ∀ tag props children (scope : Scope) sections,
  elements tag props (Node.flatten (Node.flattenedAll children)) scope sections =
    elements tag props children scope sections

mutual
theorem nodeTrace_flattened (h : IgnoresGrouping elements) : ∀ n : Node,
    s.nodeTrace elements scope sections n.flattened = s.nodeTrace elements scope sections n
  | .empty | .text _ | .literal _ => rfl
  | .fragment nodes => (nodesTrace_flatten _).trans (nodesTrace_flattenedAll h nodes)
  | .element tag props children => h tag props children scope sections
termination_by structural n => n
theorem nodesTrace_flattenedAll (h : IgnoresGrouping elements) : ∀ ns : List Node,
    s.nodesTrace elements scope sections (Node.flattenedAll ns) = s.nodesTrace elements scope sections ns
  | [] => rfl
  | n :: ns => by
    rw [Node.flattenedAll, nodesTrace, nodesTrace, nodeTrace_flattened h n, nodesTrace_flattenedAll h ns]
termination_by structural ns => ns
end

theorem componentTrace_flat (h : IgnoresGrouping elements) (c : Component) (tag : String) (props : Fields)
    (children : List Node) :
    s.componentTrace (s.nodeTrace elements scope sections) c tag props (Node.flatten (Node.flattenedAll children)) =
      s.componentTrace (s.nodeTrace elements scope sections) c tag props children := by
  have hrender := Component.render_flattened (Node.regrouped_flat children) c tag props none s.ctx
  unfold componentTrace
  obtain ⟨e, hflat, hraw⟩ | ⟨n, m, hflat, hraw, heq⟩ := outcomes_of_map_eq hrender
  · simp only [hflat, hraw]
  · have htrace : s.nodeTrace elements scope sections n = s.nodeTrace elements scope sections m := by
      rw [← nodeTrace_flattened h n, heq, nodeTrace_flattened h m]
    simp only [hflat, hraw, htrace]

/-- The induction is on the room that is left for elements inside each other. -/
theorem elementTrace_ignoresGrouping (s : Surroundings) : ∀ room : Nat, IgnoresGrouping (s.elementTrace room)
  | 0, _, _, _, _, _ => rfl
  | room + 1, tag, props, children, scope, sections => by
    have hroom := s.elementTrace_ignoresGrouping room
    have hchildren : ∀ (inner : Scope) sections,
        s.nodesTrace (s.elementTrace room) inner sections (Node.flatten (Node.flattenedAll children)) =
          s.nodesTrace (s.elementTrace room) inner sections children := fun inner sections =>
      (nodesTrace_flatten _).trans (nodesTrace_flattenedAll hroom children)
    simp only [elementTrace, hchildren, componentTrace_flat hroom]

theorem trace_flattened (s : Surroundings) (tree : Node) (answers : Fields) :
    s.trace tree.flattened answers = s.trace tree answers :=
  nodeTrace_flattened (s.elementTrace_ignoresGrouping maxDepth) tree

end Surroundings

/-! ### Passes -/

/-- Arrays of nodes and nulls are transparent: with every fragment and every list of children flattened, at any
    depth, a tree renders to the same text with the same actions and errors, and is found to need the same inputs. -/
theorem findings_flattened (tree : Node) (registry : Registry) (ctx : Context) (answers : Fields) :
    render tree.flattened registry ctx answers = render tree registry ctx answers ∧
      discover tree.flattened registry ctx answers = discover tree registry ctx answers := by
  have hrun : ∀ mode, Setting.run ⟨⟨registry, ctx⟩, mode⟩ tree.flattened answers =
      Setting.run ⟨⟨registry, ctx⟩, mode⟩ tree answers := fun mode => by
    simp only [Setting.run_eq_play, Surroundings.trace_flattened]
  exact ⟨by simp only [render, hrun], by simp only [discover, hrun]⟩

end PromptForm
