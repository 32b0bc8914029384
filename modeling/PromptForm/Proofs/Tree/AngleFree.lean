import PromptForm.Proofs.Tree.Unmarked

/-! # Trees without angles

A tree is free of angles if none stands in its texts and props, those of the nodes in the slots of a prompt included; the
conditions of branches are not printed, and may compare (`Node.AngleFree`, checked by `Node.isAngleFree`). In a context without angles components write
none (`Component.Writes.angleFree`), so that a walk without templates comes to such nodes only (`Node.AngleFree.enters`). -/

namespace PromptForm

/-- No angle stands in what a rendering takes from the context. -/
structure Context.AngleFree (ctx : Context) : Prop where
  indent : Output.AngleFree ctx.indent.toList
  format : Output.AngleFree ctx.format.toList
  language : ∀ language, ctx.language = some language → Output.AngleFree language.toList
  fact : ∀ fact : HostFact, Output.AngleFree (fact.read ctx.host).toList

/-- What components write in a context without angles has none, if there are none in their props. -/
theorem Component.Writes.angleFree {ctx : Context} {text : String} (hctx : ctx.AngleFree)
    (h : Writes (fun v => v.isAngleFree = true) ctx text) : Output.AngleFree text.toList := by
  induction h with
  | own h => exact (Text.isInert_iff.mp h).2
  | append _ _ iha ihb => exact iha.concat ihb
  | prop h => exact Value.isAngleFree_string.mp h
  | data h => exact Value.text_angleFree _ h
  | pretty h => exact Value.prettyAt_angleFree 0 _ h
  | format => exact hctx.format
  | language h => exact hctx.language _ h
  | fact fact => exact hctx.fact fact
  | date _ h ih => exact ctx.host.now.format?_angleFree ih h
  | number n => exact .int n

/-- No angle stands in the texts of the node and in its props. Conditions may have some, and of the slots of a prompt it
    is the nodes that they describe that have none. -/
inductive Node.AngleFree : Node → Prop where
  | empty : AngleFree .empty
  | text {template} (h : Output.AngleFree template.toList) : AngleFree (.text template)
  | literal {text} (h : Output.AngleFree text.toList) : AngleFree (.literal text)
  | fragment {nodes} (h : ∀ n ∈ nodes, AngleFree n) : AngleFree (.fragment nodes)
  | element {tag props children}
      (hprops : ∀ k v, (k, v) ∈ props →
        v.isAngleFree = true ∨ tag = "If" ∧ k = "when" ∨ tag = "Prompt" ∧ k = "slots")
      (hslots : tag = "Prompt" → ∀ slots slot v n, ("slots", .object slots) ∈ props → (slot, v) ∈ slots →
        Node.ofValue? v = some n → AngleFree n)
      (hchildren : ∀ n ∈ children, AngleFree n) : AngleFree (.element tag props children)

namespace Node.AngleFree
variable {tag k : String} {props : Fields} {v : Value} {children nodes : List Node}

theorem of_text {template : String} (h : Node.AngleFree (.text template)) : Output.AngleFree template.toList := by
  cases h with
  | text htext => exact htext

theorem of_literal {text : String} (h : Node.AngleFree (.literal text)) : Output.AngleFree text.toList := by
  cases h with
  | literal htext => exact htext

theorem of_fragment (h : Node.AngleFree (.fragment nodes)) : ∀ n ∈ nodes, Node.AngleFree n := by
  cases h with
  | fragment hnodes => exact hnodes

theorem of_child (h : Node.AngleFree (.element tag props children)) : ∀ n ∈ children, Node.AngleFree n := by
  cases h with
  | element _ _ hchildren => exact hchildren

/-- Only branches and prompts have props with angles. -/
theorem of_prop (h : Node.AngleFree (.element tag props children)) (htag : tag ≠ "If" ∧ tag ≠ "Prompt")
    (hprop : (k, v) ∈ props) : v.isAngleFree = true := by
  cases h with
  | element hprops =>
    rcases hprops k v hprop with hv | ⟨hbranch, -⟩ | ⟨hprompt, -⟩
    · exact hv
    · exact absurd hbranch htag.1
    · exact absurd hprompt htag.2

theorem of_props (hprompt : tag ≠ "Prompt") (hprops : ∀ k v, (k, v) ∈ props → v.isAngleFree = true)
    (hchildren : ∀ n ∈ children, Node.AngleFree n) : Node.AngleFree (.element tag props children) :=
  .element (fun k v hprop => .inl (hprops k v hprop)) (fun htag => absurd htag hprompt) hchildren

theorem closed {ctx : Context} (hctx : ctx.AngleFree) :
    Node.Closed (fun v => v.isAngleFree = true) ctx Node.AngleFree where
  own h := Value.isAngleFree_string.mpr (Text.isInert_iff.mp h).2
  empty := .empty
  text h := .text (Text.isInert_iff.mp h).2
  literal h := .literal (h.angleFree hctx)
  toLiteral h := .literal h.of_text
  fragment := .fragment
  member := of_fragment
  made htag hprops hchildren := by
    refine of_props (fun hprompt => ?_) (fun k v hprop => (hprops k v hprop).2) hchildren
    rw [hprompt] at htag
    exact absurd htag (by decide)
  step n h := by
    refine of_props (by decide) (fun k v hprop => ?_) h.of_child
    rcases Fields.mem_insert hprop with heq | hprop
    · cases heq
      rfl
    · exact h.of_prop (by decide) hprop

/-! ### Walks -/

section Walks
variable {s : Surroundings} {p q : Site} {scope : Scope} {expanded : Fields} {c : Component}

/-- A component other than a prompt handles no tag whose props may have angles. -/
theorem tag_of_component (hs : s.registry = Registry.standard) (h : s.Handles tag props scope expanded (.component c))
    (hc : c ≠ .prompt) : tag ≠ "If" ∧ tag ≠ "Prompt" := by
  have hhandler := Registry.handler?_of_resolve h.handler
  constructor
  · rintro rfl
    cases hhandler.symm.trans (Surroundings.handler?_intrinsic hs .branch)
  · rintro rfl
    exact hc (Registry.standard_of_prompt (hs ▸ hhandler))

/-- Where a walk without templates finds no angle, it goes on to nodes without angles. -/
theorem enters (hs : s.registry = Registry.standard) (hctx : s.ctx.AngleFree) (hplain : p.node.NoTemplates s.registry)
    (hp : p.node.AngleFree) (h : s.Enters p q) : q.node.AngleFree := by
  cases h with
  | member hn => exact hp.of_fragment _ hn
  | child _ _ hn => exact hp.of_child _ hn
  | expansion hhandles hask hrender =>
    cases hhandles.props.symm.trans hplain.props_plain.expandProps
    have hhandler := hs ▸ Registry.handler?_of_resolve hhandles.handler
    refine Component.render_closed (closed hctx) (Registry.standard_isPlain hhandler) (fun hc k v hprop => ?_)
      (fun hc => ?_) hp.of_child hrender
    · exact hp.of_prop (tag_of_component hs hhandles hc) hprop
    · subst hc
      cases hp with
      | element _ hslots => exact hslots (Registry.standard_prompt hhandler)

end Walks
end Node.AngleFree

/-! ### Checking trees -/

theorem Value.Inside.isAngleFree {v w : Value} (h : v.Inside w) (hw : w.isAngleFree = true) : v.isAngleFree = true := by
  induction h with
  | item h => exact isAngleFree_of_mem_items hw h
  | field h => exact isAngleFree_of_mem hw h
  | trans _ _ ih ih' => exact ih (ih' hw)

namespace Node

mutual
/-- No angle stands in the texts and the props of the node, at any depth, the conditions of branches apart. -/
def isAngleFree : Node → Bool
  | .empty => true
  | .text s | .literal s => decide (Output.AngleFree s.toList)
  | .fragment nodes => areAngleFree nodes
  | .element tag props children =>
    props.all (fun (k, v) => v.isAngleFree || tag == "If" && k == "when") && areAngleFree children
termination_by structural n => n
def areAngleFree : List Node → Bool
  | [] => true
  | n :: ns => isAngleFree n && areAngleFree ns
termination_by structural ns => ns
end

/-- What is read from a value without angles has none. -/
theorem angleFree_readFrom : ReadFrom (fun v => v.isAngleFree = true) Node.AngleFree where
  inside := Value.Inside.isAngleFree
  empty := .empty
  text h := .text (Value.isAngleFree_string.mp h)
  fragment := .fragment
  element hprops hchildren :=
    .element (fun k v hmem => .inl (hprops k v hmem).1)
      (fun _ slots _ v n hslots hslot => (hprops "slots" (.object slots) hslots).2 v n (.field hslot)) hchildren

theorem angleFree_of_element {tag : String} {props : Fields} {children : List Node}
    (hprops : props.all (fun (k, v) => v.isAngleFree || tag == "If" && k == "when") = true)
    (hchildren : ∀ n ∈ children, n.AngleFree) : (element tag props children).AngleFree := by
  have hprop : ∀ k v, (k, v) ∈ props → v.isAngleFree = true ∨ tag = "If" ∧ k = "when" := fun k v hmem => by
    simpa using List.all_eq_true.mp hprops (k, v) hmem
  refine .element (fun k v hmem => (hprop k v hmem).imp_right .inl) (fun htag slots slot v n hslots hslot => ?_) hchildren
  have hobject : (Value.object slots).isAngleFree = true :=
    (hprop "slots" _ hslots).resolve_right fun hbranch => absurd hbranch.2 (by decide)
  exact angleFree_readFrom.of_value v (Value.isAngleFree_of_mem hobject hslot) n

mutual
theorem isAngleFree_angleFree : ∀ n : Node, n.isAngleFree = true → n.AngleFree
  | .empty, _ => .empty
  | .text _, h => .text (of_decide_eq_true h)
  | .literal _, h => .literal (of_decide_eq_true h)
  | .fragment nodes, h => .fragment (areAngleFree_angleFree nodes h)
  | .element _ _ children, h => by
    obtain ⟨hprops, hchildren⟩ := Bool.and_eq_true_iff.mp h
    exact angleFree_of_element hprops (areAngleFree_angleFree children hchildren)
termination_by structural n => n
theorem areAngleFree_angleFree : ∀ ns : List Node, areAngleFree ns = true → ∀ n ∈ ns, n.AngleFree
  | [], _ => nofun
  | n :: ns, h => by
    obtain ⟨hn, hns⟩ := Bool.and_eq_true_iff.mp h
    exact List.forall_mem_cons.mpr ⟨isAngleFree_angleFree n hn, areAngleFree_angleFree ns hns⟩
termination_by structural ns => ns
end

end Node
end PromptForm
