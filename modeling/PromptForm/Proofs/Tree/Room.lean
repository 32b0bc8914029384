import PromptForm.Proofs.Component.Closure

/-! # Room for nesting

How much room for elements inside each other a tree takes (`Node.Fits`). A component that puts a section or an item around
its children takes room for two elements, any other element takes room for one (`Component.levels`), and what a prompt
fills in stands inside the prompt. What a component stands for fits in the room that is left inside of it
(`Component.render_fits`), and so a walk over a tree that fits comes to sites with room only (`Node.Fits.enters`). -/

namespace PromptForm

/-- The elements that the children of a component stand in, the component itself included. -/
def Component.levels : Component → Nat
  | .role | .format | .constraints | .constraint | .steps | .listItem | .examples | .example_ | .simpleSection _ => 2
  | _ => 1

def Handler.levels : Handler → Nat
  | .intrinsic _ => 1
  | .component c => c.levels

/-- The elements that an element of the tag counts for. -/
def Registry.levels (r : Registry) (tag : String) : Nat := ((r.handler? tag).map Handler.levels).getD 1

/-- There is room for all elements of the tree inside each other. What a prompt fills in counts as its children do. -/
inductive Node.Fits : Nat → Node → Prop where
  | empty {room} : Fits room .empty
  | text {room} template : Fits room (.text template)
  | literal {room} text : Fits room (.literal text)
  | fragment {room nodes} (h : ∀ n ∈ nodes, Fits room n) : Fits room (.fragment nodes)
  | element {room tag props children} (h : Registry.standard.levels tag ≤ room)
      (hadded : tag = "Prompt" → ∀ (kind : Component.DefaultKind) added,
        kind.addition ⟨tag, props, children, none⟩ = .ok added →
          ∀ n ∈ added, Fits (room - Registry.standard.levels tag) n)
      (hchildren : ∀ n ∈ children, Fits (room - Registry.standard.levels tag) n) :
      Fits room (.element tag props children)

/-! ### Levels -/

namespace Registry

theorem levels_pos (r : Registry) (tag : String) : 0 < r.levels tag := by
  unfold levels
  cases r.handler? tag with
  | none => exact Nat.one_pos
  | some h =>
    cases h with
    | intrinsic i => exact Nat.one_pos
    | component c => cases c <;> first | exact Nat.one_pos | exact Nat.two_pos

theorem levels_of_handler? {r : Registry} {tag : String} {h : Handler} (hh : r.handler? tag = some h) :
    r.levels tag = h.levels := by
  rw [levels, hh]
  rfl

theorem levels_intrinsic (i : Intrinsic) : standard.levels i.tag = 1 := by
  cases i <;> decide +kernel

end Registry

namespace Node.Fits
variable {room : Nat} {tag : String} {props : Fields} {children nodes : List Node} {n : Node}

theorem of_fragment (h : Fits room (.fragment nodes)) : ∀ n ∈ nodes, Fits room n := by
  cases h with
  | fragment hnodes => exact hnodes

theorem of_child (h : Fits room (.element tag props children)) :
    ∀ n ∈ children, Fits (room - Registry.standard.levels tag) n := by
  cases h with
  | element _ _ hchildren => exact hchildren

theorem levels_le (h : Fits room (.element tag props children)) : Registry.standard.levels tag ≤ room := by
  cases h with
  | element h => exact h

/-- Only a prompt fills in anything. -/
theorem of_not_prompt (h : Registry.standard.levels tag ≤ room) (htag : tag ≠ "Prompt")
    (hchildren : ∀ n ∈ children, Fits (room - Registry.standard.levels tag) n) : Fits room (.element tag props children) :=
  .element h (fun hprompt => absurd hprompt htag) hchildren

/-- An intrinsic element takes room for one. -/
theorem of_intrinsic (i : Intrinsic) (hroom : 0 < room) (h : ∀ n ∈ children, Fits (room - 1) n) :
    Fits room (.element i.tag props children) := by
  refine of_not_prompt ?_ (by cases i <;> decide) ?_
  · rw [Registry.levels_intrinsic]
    exact hroom
  · rw [Registry.levels_intrinsic]
    exact h

/-- A numbered step takes the same room. -/
theorem step (n : Int) (h : Fits room (.element "Step" props children)) :
    Fits room (.element "Step" (Fields.insert "number" (Value.int n) props) children) :=
  of_not_prompt h.levels_le (by decide) h.of_child

end Node.Fits

/-! ### Components -/

namespace Component
variable {room : Nat} {tag name : String} {props : Fields} {children : List Node} {ctx : Context} {n : Node}
open Node (Fits)

/-! What stands in a section or an item takes room for one element more. -/

section Framed
variable (hroom : 0 < room) (hchildren : ∀ n ∈ children, Fits (room - 1) n)
include hroom

theorem sectionOf_fits (h : Fits (room - 1) n) : Fits room (sectionOf name n) :=
  .of_intrinsic .section hroom (List.forall_mem_singleton.mpr h)

include hchildren

theorem sectionIfContent_fits : Fits room (sectionIfContent name children) := by
  unfold sectionIfContent
  split
  · exact sectionOf_fits hroom (.fragment hchildren)
  · exact .empty

theorem role_fits : Fits room (renderRole props children) := by
  unfold renderRole
  split
  · exact sectionOf_fits hroom (.fragment hchildren)
  · exact sectionOf_fits hroom (.literal _)

theorem format_fits : Fits room (renderFormat props children ctx) := by
  refine sectionOf_fits hroom (.fragment ?_)
  refine List.forall_mem_append.mpr ⟨List.forall_mem_append.mpr ⟨List.forall_mem_append.mpr ⟨?_, ?_⟩, ?_⟩, hchildren⟩
  · exact List.forall_mem_singleton.mpr (.literal _)
  · split
    · exact List.forall_mem_singleton.mpr (.text _)
    · exact nofun
  · split
    · exact List.forall_mem_singleton.mpr (.literal _)
    · exact nofun

theorem constraint_fits : Fits room (renderConstraint props children) :=
  .of_intrinsic .item hroom (List.forall_mem_cons.mpr ⟨.text _, hchildren⟩)

theorem steps_fits : Fits room (renderSteps children) :=
  sectionIfContent_fits hroom (Node.forall_numbered Fits.step 0 (Node.forall_flatten Fits.of_fragment hchildren))

theorem example_fits : Fits room (renderExample props children) := by
  refine .of_intrinsic .section hroom (List.forall_mem_append.mpr ⟨List.forall_mem_append.mpr ⟨?_, hchildren⟩, ?_⟩)
  all_goals
    split
    · exact List.forall_mem_singleton.mpr (.literal _)
    · exact nofun

theorem simpleSection_fits : Fits room (renderSimpleSection name props children) := by
  unfold renderSimpleSection
  split
  · exact .of_intrinsic .section hroom hchildren
  · exact .empty

end Framed

theorem code_fits (h : ∀ n ∈ children, Fits room n) : Fits room (renderCode props children ctx) := by
  have hliterals : ∀ n ∈ Node.toLiterals children, Fits room n :=
    Node.forall_toLiterals (fun _ => .literal _) .fragment Fits.of_fragment h
  refine .fragment (List.forall_mem_append.mpr ⟨List.forall_mem_cons.mpr ⟨.literal _, hliterals⟩, ?_⟩)
  exact List.forall_mem_singleton.mpr (.literal _)

theorem prompt_fits (hadded : ∀ (kind : DefaultKind) added, kind.addition ⟨tag, props, children, none⟩ = .ok added →
      ∀ n ∈ added, Fits room n)
    (h : ∀ n ∈ children, Fits room n) (hrender : renderPrompt ⟨tag, props, children, none⟩ = .ok n) : Fits room n := by
  obtain ⟨role, format, constraints, hrole, hformat, hconstraints, rfl⟩ := exists_additions hrender
  refine .fragment (List.forall_mem_append.mpr ⟨List.forall_mem_append.mpr ⟨?_, hadded .format _ hformat⟩, ?_⟩)
  · exact List.forall_mem_append.mpr ⟨hadded .role _ hrole, h⟩
  · exact hadded .constraints _ hconstraints

/-- What a component stands for fits in the room inside of it. -/
theorem render_fits {c : Component} (hc : c.isPlain = true) (hroom : c.levels ≤ room + 1)
    (hadded : c = .prompt → ∀ (kind : DefaultKind) added, kind.addition ⟨tag, props, children, none⟩ = .ok added →
      ∀ n ∈ added, Fits room n)
    (hchildren : ∀ n ∈ children, Fits (room + 1 - c.levels) n)
    (h : c.render ⟨tag, props, children, none⟩ ctx = .ok n) : Fits room n := by
  -- Two levels are the component and the element that it makes for its children.
  have hinside : c.levels = 2 → 0 < room := fun hlevels => by omega
  cases c with
  | prompt => exact prompt_fits (hadded rfl) hchildren h
  | role =>
    cases h
    exact role_fits (hinside rfl) hchildren
  | format =>
    cases h
    exact format_fits (hinside rfl) hchildren
  | constraints | examples =>
    cases h
    exact sectionIfContent_fits (hinside rfl) hchildren
  | constraint =>
    cases h
    exact constraint_fits (hinside rfl) hchildren
  | steps =>
    cases h
    exact steps_fits (hinside rfl) hchildren
  | listItem =>
    cases h
    exact .of_intrinsic .item (hinside rfl) hchildren
  | example_ =>
    cases h
    exact example_fits (hinside rfl) hchildren
  | simpleSection name =>
    cases h
    exact simpleSection_fits (hinside rfl) hchildren
  | code =>
    cases h
    exact code_fits hchildren
  | postExecution =>
    cases h
    exact .fragment hchildren
  | ask | reviewFile | openUrl | runCommand =>
    cases h
    exact .empty
  | dateTime =>
    simp only [render, renderDateTime] at h
    split at h <;> cases h
    exact .literal _
  | hostFact | timestamp | json =>
    cases h
    exact .literal _
  | fixed => cases hc

end Component

/-! ### Expanded props -/

namespace Surroundings
variable {s : Surroundings} {scope : Scope} {props expanded : Fields}

/-- What is read from neither texts nor lists is the same before templates are expanded. -/
theorem bind_get?_expandProps {α : Type} {read : Value → Option α} {key : String}
    (htext : ∀ text, read (.string text) = none) (hlist : ∀ items, read (.list items) = none) :
    ∀ {props expanded : Fields}, s.expandProps scope props = .ok expanded →
      (Fields.get? key expanded).bind read = (Fields.get? key props).bind read
  | [], _, h => by
    cases h
    rfl
  | (k, v) :: props, expanded, h => by
    obtain ⟨w, rest, hfirst, hrest, rfl⟩ := expandProps_cons h
    have hread : read w = read v := by
      cases v with
      | string text =>
        simp only [expandValue, expandText] at hfirst
        cases htext' : s.expand scope text <;> rw [htext'] at hfirst <;> cases hfirst
        rw [htext, htext]
      | list items =>
        simp only [expandValue] at hfirst
        cases hitems : items.mapM (s.expandText scope) <;> rw [hitems] at hfirst <;> cases hfirst
        rw [hlist, hlist]
      | _ =>
        cases hfirst
        rfl
    unfold Fields.get?
    split
    · exact hread
    · exact bind_get?_expandProps htext hlist hrest

/-- A prompt fills in the same whether its templates are expanded or not. -/
theorem addition_expanded (h : s.expandProps scope props = .ok expanded) (kind : Component.DefaultKind) (tag : String)
    (children : List Node) :
    kind.addition ⟨tag, expanded, children, none⟩ = kind.addition ⟨tag, props, children, none⟩ := by
  have hflag : ∀ key, Fields.flag key expanded = Fields.flag key props := fun key => by
    rw [Fields.flag, Fields.flag, bind_get?_expandProps (fun _ => rfl) (fun _ => rfl) h]
  have hslot : kind.slotValue? expanded = kind.slotValue? props := by
    rw [Component.DefaultKind.slotValue?, bind_get?_expandProps (fun _ => rfl) (fun _ => rfl) h]
    rfl
  have homitted : kind.isOmitted expanded = kind.isOmitted props := by
    rw [Component.DefaultKind.isOmitted, hflag, hflag]
    rfl
  unfold Component.DefaultKind.addition
  rw [hslot, homitted]

end Surroundings

/-! ### Walks -/

/-- From a site with room for its node the walk goes on to such sites only. -/
theorem Node.Fits.enters {s : Surroundings} {p q : Site} (hs : s.registry = Registry.standard) (hp : p.node.Fits p.room)
    (h : s.Enters p q) : q.node.Fits q.room := by
  cases h with
  | member hn => exact hp.of_fragment _ hn
  | child h _ hn =>
    have hlevels := Registry.levels_of_handler? (hs ▸ Registry.handler?_of_resolve h.handler)
    have hchild := hp.of_child _ hn
    rw [hlevels] at hchild
    exact hchild
  | @expansion room _ tag props _ _ c _ h hask hrender =>
    have hhandler := hs ▸ Registry.handler?_of_resolve h.handler
    have hlevels := Registry.levels_of_handler? hhandler
    cases hp with
    | element hroom hadded hchildren =>
      rw [hlevels] at hroom hadded hchildren
      refine Component.render_fits (Registry.standard_isPlain hhandler) hroom (fun hc kind added hkind => ?_) hchildren hrender
      subst hc
      rw [Surroundings.addition_expanded h.props] at hkind
      exact hadded (Registry.standard_prompt hhandler) kind added hkind

end PromptForm
