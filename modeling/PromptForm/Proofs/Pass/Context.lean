import PromptForm.Proofs.Component.Interpolation
import PromptForm.Proofs.Pass.Findings
import PromptForm.Proofs.Tree.Unmarked

/-! # What the context decides

Components, sections, items and templates read the context. What a component makes of it stands in literal text, at
most inside a section: the outline of the node, in which literal text is left out, is the same in every context
(`Component.render_outline`), and a walk makes the same findings of a node and of its outline
(`Surroundings.outline_findings`). Sections and items read it for their frames. That leaves templates, and the editor
of an action. Two walks which read those alike make the same findings (`ReadsAlike.trace_findings`).

The settings for trimming, indentation and highlighting are no part of the environment that templates see, and an
unmarked tree has no templates (`findings_of_context`). -/

namespace PromptForm

/-! ### Outlines -/

namespace Node

mutual
/-- The node without its literal text, and without that of its fragments and of its children if it is a section. -/
def outline : Node → Node
  | .literal _ => .literal ""
  | .fragment nodes => .fragment (outlines nodes)
  | .element tag props children =>
    .element tag props (if tag = Intrinsic.section.tag then outlines children else children)
  | node => node
termination_by structural n => n
def outlines : List Node → List Node
  | [] => []
  | n :: ns => outline n :: outlines ns
termination_by structural ns => ns
end

theorem outlines_append (ns ms : List Node) : outlines (ns ++ ms) = outlines ns ++ outlines ms := by
  induction ns with
  | nil => rfl
  | cons n ns ih => simp [outlines, ih]

theorem outline_literal (text text' : String) : (Node.literal text).outline = (Node.literal text').outline := rfl

end Node

namespace Component
open Node

theorem sectionOf_outline {n m : Node} (h : n.outline = m.outline) (name : String) :
    (sectionOf name n).outline = (sectionOf name m).outline := by
  simp [sectionOf, outline, outlines, h]

theorem format_outline (props : Fields) (children : List Node) (ctx ctx' : Context) :
    (renderFormat props children ctx).outline = (renderFormat props children ctx').outline := by
  refine sectionOf_outline ?_ "format"
  simp only [outline, outlines_append, outlines]

theorem code_outline (props : Fields) (children : List Node) (ctx ctx' : Context) :
    (renderCode props children ctx).outline = (renderCode props children ctx').outline := by
  simp only [renderCode, outline, outlines_append, outlines]

/-- Whether a format is one does not depend on the instant. -/
theorem dateTime_outline (input : RenderInput) (ctx ctx' : Context) :
    (renderDateTime input ctx).map outline = (renderDateTime input ctx').map outline := by
  simp only [renderDateTime, Calendar.Instant.format?]
  cases Calendar.FormatItem.ofChars? _ _ with
  | none => rfl
  | some items => rfl

/-- What a component makes of the context is literal text. -/
theorem render_outline (c : Component) (input : RenderInput) (ctx ctx' : Context) :
    (c.render input ctx).map outline = (c.render input ctx').map outline := by
  cases c with
  | format => exact congrArg Except.ok (format_outline input.props input.children ctx ctx')
  | code => exact congrArg Except.ok (code_outline input.props input.children ctx ctx')
  | dateTime => exact dateTime_outline input ctx ctx'
  | hostFact | timestamp => exact congrArg Except.ok (outline_literal _ _)
  | _ => rfl

end Component
/-! ### A node and its outline -/

namespace Surroundings
open Trace
variable {s s' : Surroundings} {actions : Bool} {elements : ElementTrace} {scope : Scope} {sections : Nat}

/-- The findings at a section do not depend on the literal text inside it. -/
def IgnoresLiterals (actions : Bool) (elements : ElementTrace) : Prop :=
  ∀ props children (scope : Scope) sections,
    (elements Intrinsic.section.tag props children scope sections).SameFindings actions
      (elements Intrinsic.section.tag props (Node.outlines children) scope sections)

mutual
theorem nodeTrace_outline (h : IgnoresLiterals actions elements) : ∀ n : Node,
    (s.nodeTrace elements scope sections n).SameFindings actions (s.nodeTrace elements scope sections n.outline)
  | .empty | .text _ => .refl _
  | .literal text => .text _ _
  | .fragment nodes => nodesTrace_outlines h nodes
  | .element tag props children => by
    unfold Node.outline
    split
    · rename_i htag
      subst htag
      exact h props children scope sections
    · exact .refl _
termination_by structural n => n
theorem nodesTrace_outlines (h : IgnoresLiterals actions elements) : ∀ ns : List Node,
    (s.nodesTrace elements scope sections ns).SameFindings actions
      (s.nodesTrace elements scope sections (Node.outlines ns))
  | [] => .refl _
  | n :: ns => (nodeTrace_outline h n).andThen (nodesTrace_outlines h ns)
termination_by structural ns => ns
end

/-- The induction is on the room that is left for elements inside each other. -/
theorem elementTrace_ignoresLiterals (hs : s.registry = Registry.standard) : ∀ room : Nat,
    IgnoresLiterals actions (s.elementTrace room)
  | 0, _, _, _, _ => .refl _
  | room + 1, props, children, scope, sections => by
    have hroom : IgnoresLiterals actions (s.elementTrace room) := elementTrace_ignoresLiterals hs room
    rw [elementTrace_eq, elementTrace_eq]
    cases hverdict : s.verdict Intrinsic.section.tag props scope with
    | malformed m => exact .refl _
    | waiting => exact .refl _
    | refused expanded e => exact .refl _
    | handled expanded handler =>
      have hhandler := Registry.handler?_of_resolve (verdict_eq_handled.mp hverdict).handler
      cases hhandler.symm.trans (handler?_intrinsic hs .section)
      exact (nodesTrace_outlines hroom children).framed _ _

/-- Nodes with the same outline lead to the same findings. -/
theorem outline_findings (hs : s.registry = Registry.standard) {n m : Node} (h : n.outline = m.outline) (room : Nat) :
    (s.nodeTrace (s.elementTrace room) scope sections n).SameFindings actions
      (s.nodeTrace (s.elementTrace room) scope sections m) := by
  have hroom : IgnoresLiterals actions (s.elementTrace room) := elementTrace_ignoresLiterals hs room
  exact (h ▸ nodeTrace_outline hroom n).trans (nodeTrace_outline hroom m).symm

end Surroundings

/-! ### Walks that read alike -/

/-- Two walks over nodes of a certain kind read the same templates and props alike, and call for the same actions if
    these count. A walk over such a node comes to such nodes only. -/
structure ReadsAlike (actions : Bool) (s s' : Surroundings) (kind : Node → Prop) : Prop where
  standard : s.registry = Registry.standard
  registry : s'.registry = s.registry
  text : ∀ {template}, kind (.text template) → ∀ scope, s'.expand scope template = s.expand scope template
  props : ∀ {tag props children}, kind (.element tag props children) →
    ∀ scope, s'.expandProps scope props = s.expandProps scope props
  action : actions = true → ∀ (c : Component) props, c.action? props s'.ctx = c.action? props s.ctx
  member : ∀ {nodes}, kind (.fragment nodes) → ∀ n ∈ nodes, kind n
  child : ∀ {tag props children}, kind (.element tag props children) → ∀ n ∈ children, kind n
  expansion : ∀ {tag props children scope expanded c n}, kind (.element tag props children) →
    s.Handles tag props scope expanded (.component c) → c.requirement expanded = .ok none →
      c.render ⟨tag, expanded, children, none⟩ s.ctx = .ok n → kind n

namespace ReadsAlike
open Surroundings Trace
variable {actions : Bool} {s s' : Surroundings} {kind : Node → Prop} {elements elements' : ElementTrace} {scope : Scope}
  {sections : Nat}

mutual
theorem node_findings (h : ReadsAlike actions s s' kind)
    (helements : ∀ tag props children, kind (.element tag props children) →
      (elements tag props children scope sections).SameFindings actions (elements' tag props children scope sections)) :
    ∀ n : Node, kind n → (s.nodeTrace elements scope sections n).SameFindings actions
      (s'.nodeTrace elements' scope sections n)
  | .empty, _ | .literal _, _ => .refl _
  | .text template, hn => by
    unfold nodeTrace
    rw [h.text hn]
    exact .refl _
  | .fragment nodes, hn => nodes_findings h helements nodes (h.member hn)
  | .element tag props children, hn => helements tag props children hn
termination_by structural n => n
theorem nodes_findings (h : ReadsAlike actions s s' kind)
    (helements : ∀ tag props children, kind (.element tag props children) →
      (elements tag props children scope sections).SameFindings actions (elements' tag props children scope sections)) :
    ∀ ns : List Node, (∀ n ∈ ns, kind n) → (s.nodesTrace elements scope sections ns).SameFindings actions
      (s'.nodesTrace elements' scope sections ns)
  | [], _ => .refl _
  | n :: ns, hns => (node_findings h helements n (hns n List.mem_cons_self)).andThen
      (nodes_findings h helements ns fun m hm => hns m (List.mem_cons_of_mem n hm))
termination_by structural ns => ns
end

theorem rounds_findings {step step' : Scope → Trace}
    (hstep : ∀ inner, (step inner).SameFindings actions (step' inner)) {binding : String} {index : Option String} :
    ∀ (items : List Value) (i : Nat), (roundsTrace step scope binding index i items).SameFindings actions
      (roundsTrace step' scope binding index i items)
  | [], _ => .refl _
  | _ :: items, i => (hstep _).andThen (rounds_findings hstep items (i + 1))

/-- The frames of sections and items may differ. -/
theorem intrinsic_findings {children children' : Scope → Nat → Trace}
    (hchildren : ∀ inner sections, (children inner sections).SameFindings actions (children' inner sections))
    (i : Intrinsic) (props : Fields) (sections : Nat) :
    (s.intrinsicTrace children i props scope sections).SameFindings actions
      (s'.intrinsicTrace children' i props scope sections) := by
  cases i with
  | fragment => exact hchildren scope sections
  | branch =>
    simp only [intrinsicTrace, branchTrace]
    split
    · exact .refl _
    · split
      · exact hchildren scope sections
      · exact .refl _
  | loop => exact rounds_findings (fun inner => hchildren inner sections) _ 0
  | «section» => exact (hchildren scope (sections + 1)).framed _ _
  | item => exact (hchildren scope sections).framed _ _

theorem actions_findings (h : ReadsAlike actions s s' kind) (c : Component) (props : Fields) :
    SameFindings actions ⟨(c.action? props s.ctx).toList.map .action, none⟩
      ⟨(c.action? props s'.ctx).toList.map .action, none⟩ := by
  cases hcounts : actions with
  | false =>
    have hnone : ∀ found : Option Action, (found.toList.map Event.action).filter (Event.counts false) = [] :=
      fun found => by cases found <;> rfl
    exact ⟨(hnone _).trans (hnone _).symm, rfl⟩
  | true =>
    rw [h.action hcounts]
    exact .refl _

/-- The nodes that a component stands for in the two contexts have the same outline. -/
theorem component_findings (h : ReadsAlike actions s s' kind) {room : Nat} (c : Component) (tag : String)
    (props : Fields) (children : List Node)
    (hnode : ∀ n, c.requirement props = .ok none → c.render ⟨tag, props, children, none⟩ s.ctx = .ok n →
      (s.nodeTrace (s.elementTrace room) scope sections n).SameFindings actions
        (s'.nodeTrace (s'.elementTrace room) scope sections n)) :
    (s.componentTrace (s.nodeTrace (s.elementTrace room) scope sections) c tag props children).SameFindings actions
      (s'.componentTrace (s'.nodeTrace (s'.elementTrace room) scope sections) c tag props children) := by
  have houtline := c.render_outline ⟨tag, props, children, none⟩ s.ctx s'.ctx
  unfold componentTrace
  split
  · exact .refl _
  · exact .refl _
  · rename_i hask
    refine (h.actions_findings c props).andThen ?_
    obtain ⟨e, hn, hm⟩ | ⟨n, m, hn, hm, heq⟩ := outcomes_of_map_eq houtline
    · rw [hn, hm]
      exact .refl _
    · rw [hn, hm]
      exact (hnode n hask hn).trans (outline_findings (h.registry.trans h.standard) heq room)

/-- The induction is on the room that is left for elements inside each other. -/
theorem element_findings (h : ReadsAlike actions s s' kind) : ∀ (room : Nat) (tag : String) (props : Fields)
    (children : List Node) (scope : Scope) (sections : Nat), kind (.element tag props children) →
      (s.elementTrace room tag props children scope sections).SameFindings actions
        (s'.elementTrace room tag props children scope sections)
  | 0, _, _, _, _, _, _ => .refl _
  | room + 1, tag, props, children, scope, sections, hn => by
    have hsame : s'.verdict tag props scope = s.verdict tag props scope := by
      simp only [verdict, isWaiting, h.registry, h.props hn]
    rw [elementTrace_eq, elementTrace_eq, hsame]
    cases hverdict : s.verdict tag props scope with
    | malformed m => exact .refl _
    | waiting => exact .refl _
    | refused expanded e => exact .refl _
    | handled expanded handler =>
      cases handler with
      | intrinsic i =>
        refine intrinsic_findings (fun inner sections => ?_) _ _ _
        exact h.nodes_findings (fun tag props children => h.element_findings room tag props children inner sections)
          children (h.child hn)
      | component c =>
        refine h.component_findings c tag expanded children fun n hask hrender => ?_
        refine h.node_findings (fun tag props children => h.element_findings room tag props children scope sections)
          n (h.expansion hn (verdict_eq_handled.mp hverdict) hask hrender)

theorem trace_findings (h : ReadsAlike actions s s' kind) {tree : Node} (htree : kind tree) (answers : Fields) :
    (s.trace tree answers).SameFindings actions (s'.trace tree answers) :=
  h.node_findings (fun tag props children => h.element_findings maxDepth tag props children _ 0) tree htree

end ReadsAlike
/-! ### Passes -/

/-- Trimming, indentation and highlighting are no part of what templates see. -/
theorem readsAlike_of_preferences (ctx : Context) (trim : Bool) (indent : String) (highlight : Bool) :
    ReadsAlike true ⟨.standard, ctx⟩ ⟨.standard, { ctx with trim, indent, highlight }⟩ fun _ => True where
  standard := rfl
  registry := rfl
  text _ _ := rfl
  props _ _ := rfl
  action _ c _ := by cases c <;> rfl
  member _ _ _ := trivial
  child _ _ _ := trivial
  expansion _ _ _ _ := trivial

/-- Without templates nothing is read from the environment. -/
theorem readsAlike_of_namesOnly (ctx ctx' : Context) :
    ReadsAlike false ⟨.standard, ctx⟩ ⟨.standard, ctx'⟩ (Node.NamesOnly .standard fun _ => False) where
  standard := rfl
  registry := rfl
  text hn scope := by
    cases hn with
    | text hmarked =>
      have hexpand : ∀ ctx, Surroundings.expand ⟨.standard, ctx⟩ scope _ = .ok _ := fun _ =>
        Template.expand_of_not_marked _ hmarked
      exact (hexpand ctx').trans (hexpand ctx).symm
  props hn scope := hn.props_plain.expandProps.trans hn.props_plain.expandProps.symm
  action := nofun
  member hn := hn.of_fragment
  child hn := hn.of_child
  expansion {tag props children scope expanded c n} hn hhandles hask hrender :=
    Node.NamesOnly.enters (p := ⟨1, scope, .element tag props children⟩) (q := ⟨0, scope, n⟩) rfl hn
      (.expansion hhandles hask hrender)

/-- Formatting preferences do not matter to what is asked, reported and emitted, only to the text: contexts that
    differ in trimming, indentation and highlighting alone lead to the same inputs, errors and actions. Over a tree
    without templates any two contexts lead to the same inputs and errors. -/
theorem findings_of_context (tree : Node) (answers : Fields) :
    (∀ (ctx : Context) (trim : Bool) (indent : String) (highlight : Bool),
      let ctx' := { ctx with trim, indent, highlight }
      discover tree .standard ctx answers = discover tree .standard ctx' answers ∧
        (render tree .standard ctx answers).errors = (render tree .standard ctx' answers).errors ∧
        (render tree .standard ctx answers).ok = (render tree .standard ctx' answers).ok ∧
        (render tree .standard ctx answers).actions = (render tree .standard ctx' answers).actions) ∧
    (tree.isUnmarked = true → ∀ ctx ctx' : Context,
      discover tree .standard ctx answers = discover tree .standard ctx' answers ∧
        (render tree .standard ctx answers).errors = (render tree .standard ctx' answers).errors) := by
  constructor
  · intro ctx trim indent highlight
    have hreads := readsAlike_of_preferences ctx trim indent highlight
    obtain ⟨hdiscover, herrors, hactions⟩ := findings_eq (hreads.trace_findings trivial answers)
    exact ⟨hdiscover, herrors, congrArg List.isEmpty herrors, hactions rfl⟩
  · intro htree ctx ctx'
    have hreads := readsAlike_of_namesOnly ctx ctx'
    obtain ⟨hdiscover, herrors, -⟩ := findings_eq (hreads.trace_findings (tree.isUnmarked_namesOnly htree) answers)
    exact ⟨hdiscover, herrors⟩

/-- A prompt that asks for a topic, prints code and the time, and calls for an action. -/
def memo : Node := .element "Prompt" [("bare", .bool true)] [
  .element "Ask.Text" [("name", .string "topic")] [],
  .element "Code" [("language", .string "rust")] [.text "fn main() {}"],
  .element "DateTime" [("format", .string "%H:%M")] [],
  .element "ReviewFile" [("file", .string "memo.md")] []]

/-- A context with nothing set up. -/
def Context.bare : Context := .ofConfig {} ⟨"host", "user", "/", ⟨0, 0⟩⟩

/-- Another provider's delimiters, another editor and another time. -/
def Context.elsewhere : Context :=
  { Context.bare with delimiter := .markdown, editor := some "vim", host := ⟨"remote", "guest", "/srv", ⟨86399, 0⟩⟩ }

/-- The texts of a memo differ from context to context, but it asks for the same and reports the same. -/
theorem findings_of_context_memo : memo.isUnmarked = true ∧
    (render memo .standard .bare []).text ≠ (render memo .standard .elsewhere []).text ∧
    (discover memo .standard .bare []).requirements.map (·.name) = ["topic"] ∧
    discover memo .standard .bare [] = discover memo .standard .elsewhere [] ∧
    (render memo .standard .bare []).errors = (render memo .standard .elsewhere []).errors := by
  have hunmarked : memo.isUnmarked = true := by decide +kernel
  exact ⟨hunmarked, by decide +kernel, by decide +kernel, (findings_of_context memo []).2 hunmarked .bare .elsewhere⟩

end PromptForm
