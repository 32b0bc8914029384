import PromptForm.Proofs.Growth.Scope
import PromptForm.Proofs.Pass.Roots

/-! # Trees whose names have a meaning

In a grounded tree every root that a condition or a loop looks up is known, or bound by a loop around it
(`Node.Grounded`). Components keep this, so that at every site of a walk what is bound by the tree is bound in the scope
(`Site.Grounded`). If what is known has answers then, without templates, more answers do not change the walk
(`trace_grounded`). -/

namespace PromptForm

namespace Node

/-- The names that an element binds for its children. -/
def bindsAt (tag : String) (props : Fields) : List String :=
  if tag = "ForEach" then (Fields.text? "as" props).getD "item" :: (Fields.text? "index" props).toList else []

/-- Every root that is looked up is bound by a loop around it or known. The nodes that the slots of a prompt describe
    count as well. -/
inductive Grounded (known : String → Prop) : List String → Node → Prop where
  | empty {bound} : Grounded known bound .empty
  | text {bound} template : Grounded known bound (.text template)
  | literal {bound} text : Grounded known bound (.literal text)
  | fragment {bound nodes} (h : ∀ n ∈ nodes, Grounded known bound n) : Grounded known bound (.fragment nodes)
  | element {bound tag props children} (hroots : ∀ n ∈ rootsAt tag props, n ∈ bound ∨ known n)
      (hslots : tag = "Prompt" → ∀ slots slot v n, ("slots", .object slots) ∈ props → (slot, v) ∈ slots →
        Node.ofValue? v = some n → Grounded known bound n)
      (hchildren : ∀ n ∈ children, Grounded known (bindsAt tag props ++ bound) n) :
      Grounded known bound (.element tag props children)

namespace Grounded
variable {known : String → Prop} {bound : List String} {tag : String} {props : Fields} {children nodes : List Node}

theorem of_fragment (h : Grounded known bound (.fragment nodes)) : ∀ n ∈ nodes, Grounded known bound n := by
  cases h with
  | fragment hnodes => exact hnodes

theorem of_child (h : Grounded known bound (.element tag props children)) :
    ∀ n ∈ children, Grounded known (bindsAt tag props ++ bound) n := by
  cases h with
  | element _ _ hchildren => exact hchildren

/-- Elements that neither look up nor bind names, and have no slots. -/
theorem of_other (htag : tag ∉ ["If", "ForEach", "Prompt"]) (hchildren : ∀ n ∈ children, Grounded known bound n) :
    Grounded known bound (.element tag props children) := by
  simp only [List.mem_cons, List.mem_nil_iff, or_false, not_or] at htag
  obtain ⟨hbranch, hloop, hprompt⟩ := htag
  refine .element (fun n hn => ?_) (fun h => absurd h hprompt) ?_
  · simp [rootsAt, hbranch, hloop] at hn
  · simpa only [bindsAt, hloop, if_false, List.nil_append] using hchildren

theorem closed {ctx : Context} : Node.Closed (fun _ => True) ctx (Grounded known bound) where
  own _ := trivial
  empty := .empty
  text _ := .text _
  literal _ := .literal _
  toLiteral _ := .literal _
  fragment := .fragment
  member := of_fragment
  made {tag _ _} htag _ hchildren := by
    have hother : ∀ tag ∈ Component.madeTags, tag ∉ ["If", "ForEach", "Prompt"] := by decide
    exact of_other (hother tag htag) hchildren
  step _ h := of_other (by decide) h.of_child

end Grounded
end Node

/-! ### Walks -/

/-- What is bound around a node is bound in the scope of the site. -/
def Site.Grounded (known : String → Prop) (p : Site) : Prop :=
  ∃ bound, p.node.Grounded known bound ∧ ∀ n ∈ bound, (Fields.get? n p.scope.bindings).isSome = true

theorem Scope.bindings_bind (scope : Scope) (name n : String) (v : Value) :
    (Fields.get? n (scope.bind name v).bindings).isSome = true ↔ name = n ∨ (Fields.get? n scope.bindings).isSome = true := by
  simp only [bind, Fields.get?]
  split <;> simp [*]

/-- In a round of a loop the names of the loop are bound as well. -/
theorem Scope.bindings_inRound {scope : Scope} {binding : String} {index : Option String} (i : Nat) (item : Value)
    {n : String} (h : n ∈ binding :: index.toList ∨ (Fields.get? n scope.bindings).isSome = true) :
    (Fields.get? n (scope.inRound binding index i item).bindings).isSome = true := by
  cases index with
  | none =>
    rw [inRound, bindings_bind]
    exact h.imp_left fun hn => (List.mem_singleton.mp hn).symm
  | some name =>
    rw [inRound, bindings_bind, bindings_bind, ← or_assoc]
    refine h.imp_left fun hn => ?_
    rcases List.mem_cons.mp hn with heq | hn
    · exact .inr heq.symm
    · exact .inl (List.mem_singleton.mp hn).symm

namespace Site.Grounded
variable {s : Surroundings} {known : String → Prop} {p q : Site}

theorem child {room : Nat} {scope inner : Scope} {tag : String} {props : Fields} {children : List Node} {i : Intrinsic}
    {n : Node} (hi : tag = i.tag) (hp : Site.Grounded known ⟨room + 1, scope, .element tag props children⟩)
    (hinner : inner ∈ i.scopes props scope) (hn : n ∈ children) : Site.Grounded known ⟨room, inner, n⟩ := by
  obtain ⟨bound, hnode, hbound⟩ := hp
  refine ⟨_, hnode.of_child n hn, fun name hname => ?_⟩
  subst hi
  cases i with
  | loop =>
    obtain ⟨k, _, rfl⟩ := List.mem_mapIdx.mp hinner
    refine Scope.bindings_inRound k _ ?_
    rcases List.mem_append.mp hname with hname | hname
    · exact .inl hname
    · exact .inr (hbound name hname)
  | branch =>
    simp only [Intrinsic.scopes] at hinner
    split at hinner
    · rw [List.mem_singleton.mp hinner]
      exact hbound name hname
    · cases hinner
  | fragment | «section» | item =>
    rw [List.mem_singleton.mp hinner]
    exact hbound name hname

theorem enters (hs : s.registry = Registry.standard) (hplain : p.node.NoTemplates s.registry)
    (hp : p.Grounded known) (h : s.Enters p q) : q.Grounded known := by
  cases h with
  | member hn =>
    obtain ⟨bound, hnode, hbound⟩ := hp
    exact ⟨bound, hnode.of_fragment _ hn, hbound⟩
  | child hhandles hinner hn =>
    cases hhandles.props.symm.trans hplain.props_plain.expandProps
    have hhandler := hs ▸ Registry.handler?_of_resolve hhandles.handler
    exact hp.child (Registry.standard_intrinsic hhandler) hinner hn
  | @expansion _ _ tag _ _ _ c _ hhandles hask hrender =>
    cases hhandles.props.symm.trans hplain.props_plain.expandProps
    have hhandler : Registry.standard.handler? tag = some (.component c) := hs ▸ Registry.handler?_of_resolve hhandles.handler
    -- Loops are intrinsic, and so the tag binds nothing.
    have hloop : tag ≠ "ForEach" := by
      rintro rfl
      cases hhandler.symm.trans (hs ▸ Surroundings.handler?_intrinsic hs .loop)
    obtain ⟨bound, hnode, hbound⟩ := hp
    refine ⟨bound, ?_, hbound⟩
    cases hnode with
    | element _ hslots hchildren =>
      refine Component.render_closed Node.Grounded.closed (Registry.standard_isPlain hhandler)
        (fun _ _ _ _ => trivial) (fun hc => ?_) (fun n hn => ?_) hrender
      · subst hc
        exact hslots (Registry.standard_prompt hhandler)
      · simpa [Node.bindsAt, hloop] using hchildren n hn

theorem visits (hs : s.registry = Registry.standard) (hplain : p.node.NoTemplates s.registry)
    (hp : p.Grounded known) (h : s.Visits p q) : q.Grounded known := by
  induction h with
  | refl => exact hp
  | tail hq hstep ih => exact ih.enters hs (hplain.visits hs hq) hstep

/-- What is looked up at an element has a meaning if what is known has one. -/
theorem root?_isSome {room : Nat} {scope : Scope} {tag : String} {props : Fields} {children : List Node}
    (hp : Site.Grounded (fun n => (Fields.get? n scope.answers).isSome = true) ⟨room, scope, .element tag props children⟩)
    {n : String} (hn : n ∈ Node.rootsAt tag props) : (scope.root? n).isSome = true := by
  obtain ⟨bound, hnode, hbound⟩ := hp
  cases hnode with
  | element hroots =>
    rw [Scope.root?, Option.isSome_or, Bool.or_eq_true]
    exact (hroots n hn).imp (hbound n) id

end Site.Grounded

/-- In a grounded tree without templates a walk with more answers is the walk with the answers that ground it. -/
theorem trace_grounded {s : Surroundings} {tree : Node} {answers later : Fields} (hs : s.registry = Registry.standard)
    (hplain : tree.NoTemplates s.registry)
    (htree : tree.Grounded (fun n => (Fields.get? n answers).isSome = true) [])
    (hkept : Fields.Kept answers later) : s.trace tree later = s.trace tree answers := by
  let root : Site := ⟨maxDepth, ⟨answers, []⟩, tree⟩
  have hroot : root.Grounded fun n => (Fields.get? n answers).isSome = true := ⟨[], htree, nofun⟩
  have hparallel : Parallel (· = ·) s later root := by
    refine parallel_of_roots hs hplain fun {room scope tag props children} hq n hn => ?_
    have hscope : scope.answers = answers := Surroundings.answers_of_visits hq
    subst hscope
    obtain ⟨v, hv⟩ := Option.isSome_iff_exists.mp ((hroot.visits hs hplain hq).root?_isSome hn)
    rw [hv]
    exact Scope.root?_answering hkept hv
  exact (Surroundings.related .eq hparallel 0).symm
end PromptForm
