import PromptForm.Proofs.Component.Closure

/-! # The elements of a tree

What is said of the elements of a tree covers those that a prompt reads from its slots (`Node.Every`). It then holds
of all elements that a walk over the tree comes to, as long as it holds of the few that components make of their own
(`Node.Every.visits`). -/

namespace PromptForm

/-- Every element is of a certain kind. The nodes that the slots of a prompt describe count as well. -/
inductive Node.Every (kind : String → Fields → Prop) : Node → Prop where
  | empty : Every kind .empty
  | text template : Every kind (.text template)
  | literal text : Every kind (.literal text)
  | fragment {nodes} (h : ∀ n ∈ nodes, Every kind n) : Every kind (.fragment nodes)
  | element {tag props children} (h : kind tag props)
      (hslots : tag = "Prompt" → ∀ slots slot v n, ("slots", .object slots) ∈ props → (slot, v) ∈ slots →
        Node.ofValue? v = some n → Every kind n)
      (hchildren : ∀ n ∈ children, Every kind n) : Every kind (.element tag props children)

/-- The elements that components make or number are of the kind, whatever their props. -/
def Component.Makes (kind : String → Fields → Prop) : Prop := ∀ tag ∈ "Step" :: madeTags, ∀ props, kind tag props

namespace Node.Every
variable {kind : String → Fields → Prop} {tag : String} {props : Fields} {children nodes : List Node}

theorem of_fragment (h : Every kind (.fragment nodes)) : ∀ n ∈ nodes, Every kind n := by
  cases h with
  | fragment hnodes => exact hnodes

theorem of_element (h : Every kind (.element tag props children)) : kind tag props := by
  cases h with
  | element hkind => exact hkind

theorem of_child (h : Every kind (.element tag props children)) : ∀ n ∈ children, Every kind n := by
  cases h with
  | element _ _ hchildren => exact hchildren

/-- Only a prompt has slots. -/
theorem of_not_prompt (h : kind tag props) (htag : tag ≠ "Prompt") (hchildren : ∀ n ∈ children, Every kind n) :
    Every kind (.element tag props children) :=
  .element h (fun hprompt => absurd hprompt htag) hchildren

theorem closed {ctx : Context} (hmakes : Component.Makes kind) : Node.Closed (fun _ => True) ctx (Every kind) where
  own _ := trivial
  empty := .empty
  text _ := .text _
  literal _ := .literal _
  toLiteral _ := .literal _
  fragment := .fragment
  member := of_fragment
  made htag _ hchildren := by
    refine of_not_prompt (hmakes _ (List.mem_cons_of_mem _ htag) _) (fun hprompt => ?_) hchildren
    rw [hprompt] at htag
    exact absurd htag (by decide)
  step n h := of_not_prompt (hmakes "Step" List.mem_cons_self _) (by decide) h.of_child

section Walks
variable {s : Surroundings} {p q : Site}

theorem enters (hs : s.registry = Registry.standard) (hmakes : Component.Makes kind) (hp : p.node.Every kind)
    (h : s.Enters p q) : q.node.Every kind := by
  cases h with
  | member hn => exact hp.of_fragment _ hn
  | child _ _ hn => exact hp.of_child _ hn
  | expansion h hask hrender =>
    have hhandler := hs ▸ Registry.handler?_of_resolve h.handler
    cases hp with
    | element _ hslots hchildren =>
      refine Component.render_closed (closed hmakes) (Registry.standard_isPlain hhandler) (fun _ _ _ _ => trivial)
        (fun hc => ?_) ?_ hrender
      · subst hc
        exact fun slots slot v n hmem =>
          hslots (Registry.standard_prompt hhandler) slots slot v n (Surroundings.mem_of_mem_expandProps h.props hmem)
      · exact hchildren

/-- A walk comes to elements of the kind only. -/
theorem visits (hs : s.registry = Registry.standard) (hmakes : Component.Makes kind) (hp : p.node.Every kind)
    (h : s.Visits p q) : q.node.Every kind := by
  induction h with
  | refl => exact hp
  | tail _ hstep ih => exact ih.enters hs hmakes hstep

end Walks
end Node.Every
end PromptForm
