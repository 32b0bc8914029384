import PromptForm.Proofs.Component.Closure

/-! # Templates in the names of inputs only

In some trees templates stand nowhere but in the names of inputs (`Node.NamesOnly`), also not in the nodes that a
prompt takes from its slots. No component makes templates of its own, and none moves a name elsewhere, so that
whatever a walk over such a tree comes to is of the same kind (`Node.NamesOnly.visits`). -/

namespace PromptForm

/-- Templates stand in the names of inputs only, and these are of a certain form. The nodes that the values of slots
    describe count as well. -/
inductive Node.NamesOnly (registry : Registry) (form : Value → Prop) : Node → Prop where
  | empty : NamesOnly registry form .empty
  | text {template} (h : Template.isMarked template = false) : NamesOnly registry form (.text template)
  | literal text : NamesOnly registry form (.literal text)
  | fragment {nodes} (h : ∀ n ∈ nodes, NamesOnly registry form n) : NamesOnly registry form (.fragment nodes)
  | element {tag props children}
      (hprops : ∀ k v, (k, v) ∈ props → v.Plain ∨
        k = "name" ∧ registry.asksInput tag = true ∧ Fields.get? "name" props = some v ∧ form v)
      (hslots : ∀ slots slot v n, ("slots", .object slots) ∈ props → (slot, v) ∈ slots → Node.ofValue? v = some n →
        NamesOnly registry form n)
      (hchildren : ∀ n ∈ children, NamesOnly registry form n) : NamesOnly registry form (.element tag props children)

namespace Node.NamesOnly
variable {registry : Registry} {form : Value → Prop} {tag : String} {props : Fields} {children : List Node} {n : Node}

/-- The props of what is no input are plain. -/
theorem plain (h : NamesOnly registry form (.element tag props children)) (hasks : registry.asksInput tag = false) :
    Fields.Plain props := by
  cases h with
  | element hprops =>
    refine fun k v hprop => (hprops k v hprop).resolve_right fun ⟨_, hinput, _⟩ => ?_
    rw [hasks] at hinput
    cases hinput

theorem props_plain (h : NamesOnly registry (fun _ => False) (.element tag props children)) : Fields.Plain props := by
  cases h with
  | element hprops => exact fun k v hprop => (hprops k v hprop).resolve_right fun ⟨_, _, _, hnone⟩ => hnone

theorem of_fragment {nodes : List Node} (h : NamesOnly registry form (.fragment nodes)) :
    ∀ n ∈ nodes, NamesOnly registry form n := by
  cases h with
  | fragment hnodes => exact hnodes

theorem of_child (h : NamesOnly registry form (.element tag props children)) : ∀ n ∈ children, NamesOnly registry form n := by
  cases h with
  | element _ _ hchildren => exact hchildren

/-- An element with plain props, none of them slots. -/
theorem of_plain (hprops : Fields.Plain props) (hslots : ∀ v, ("slots", v) ∉ props)
    (hchildren : ∀ n ∈ children, NamesOnly registry form n) : NamesOnly registry form (.element tag props children) :=
  .element (fun k v hprop => .inl (hprops k v hprop)) (fun _ _ _ _ hmem => absurd hmem (hslots _)) hchildren

/-- A number among the props is no template. -/
theorem insert_number (h : NamesOnly registry form (.element tag props children)) (n : Int) :
    NamesOnly registry form (.element tag (Fields.insert "number" (Value.int n) props) children) := by
  cases h with
  | element hprops hslots hchildren =>
    refine .element (fun k v hprop => ?_) (fun slots slot v m hmem => ?_) hchildren
    · rcases Fields.mem_insert hprop with heq | hprop
      · cases heq
        exact .inl nofun
      · refine (hprops k v hprop).imp_right fun ⟨hk, hasks, hname, hv⟩ => ⟨hk, hasks, ?_, hv⟩
        rw [Fields.get?_insert, if_neg (by decide), hname]
    · refine hslots slots slot v m ?_
      rcases Fields.mem_insert hmem with heq | hmem
      · exact absurd (Prod.mk.inj heq).1 (by decide)
      · exact hmem

/-- Components keep templates where they are. -/
theorem closed {ctx : Context} : Node.Closed Value.Plain ctx (NamesOnly registry form) where
  own h := Value.plain_string.mpr (Text.unmarked_of_isInert h)
  empty := .empty
  text h := .text (Text.unmarked_of_isInert h)
  literal _ := .literal _
  toLiteral _ := .literal _
  fragment := .fragment
  member := of_fragment
  made _ hprops hchildren :=
    of_plain (fun k v hmem => (hprops k v hmem).2) (fun _ hmem => (hprops _ _ hmem).1 rfl) hchildren
  step n h := h.insert_number n

end Node.NamesOnly

/-- Templates stand nowhere, not even in the names of inputs. -/
abbrev Node.NoTemplates (registry : Registry) : Node → Prop := NamesOnly registry fun _ => False

/-! ### Walks -/

/-- A component that stands for a node is no input. -/
theorem Component.asksInput_of_requirement {c : Component} {props : Fields} (h : c.requirement props = .ok none) :
    c.asksInput = false := by
  cases c with
  | ask kind =>
    simp only [requirement] at h
    cases hr : askRequirement kind props <;> rw [hr] at h <;> cases h
  | _ => rfl

theorem Registry.asksInput_component {r : Registry} {tag : String} {c : Component}
    (h : r.handler? tag = some (.component c)) : r.asksInput tag = c.asksInput := by
  simp only [asksInput, h]

namespace Node.NamesOnly
variable {s : Surroundings} {form : Value → Prop} {p q : Site}

theorem enters (hs : s.registry = Registry.standard) (hp : p.node.NamesOnly s.registry form) (h : s.Enters p q) :
    q.node.NamesOnly s.registry form := by
  cases h with
  | member hn => exact hp.of_fragment _ hn
  | child h _ hn => exact hp.of_child _ hn
  | @expansion room scope tag props children expanded c n h hask hrender =>
    have hhandler := Registry.handler?_of_resolve h.handler
    have hplain : Fields.Plain props :=
      hp.plain ((Registry.asksInput_component hhandler).trans (Component.asksInput_of_requirement hask))
    have hexpanded : expanded = props := Except.ok.inj (h.props.symm.trans hplain.expandProps)
    subst hexpanded
    cases hp with
    | element _ hslots hchildren =>
      refine Component.render_closed closed (Registry.standard_isPlain (hs ▸ hhandler)) (fun _ => ?_) (fun _ => ?_) ?_ hrender
      · exact hplain
      · exact hslots
      · exact hchildren

theorem visits (hs : s.registry = Registry.standard) (hp : p.node.NamesOnly s.registry form) (h : s.Visits p q) :
    q.node.NamesOnly s.registry form := by
  induction h with
  | refl => exact hp
  | tail _ hstep ih => exact ih.enters hs hstep

end Node.NamesOnly
end PromptForm
