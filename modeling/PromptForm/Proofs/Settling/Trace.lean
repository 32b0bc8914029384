import PromptForm.Proofs.Pass.Discovery
import PromptForm.Proofs.Settling.Basic

/-! # Traces settle

While answers are added one by one the trace of a tree settles, although any answer may open branches, add
rounds to loops and make new names: a walk is finite, so in the end it reads finitely many names, and each of
them settles. A discovery therefore settles too (`Form.discover_settles`). -/

namespace PromptForm

/-- What is met at an element settles while the names in its scope do. -/
def ElementTrace.Settling (elements : ElementTrace) : Prop :=
  ∀ tag props children (scopes : Nat → Scope) sections, Steady scopes →
    Settles fun k => elements tag props children (scopes k) sections

namespace Surroundings
variable {s : Surroundings} {scopes : Nat → Scope}

theorem settles_rounds {step : Scope → Trace}
    (hstep : ∀ inner : Nat → Scope, Steady inner → Settles fun k => step (inner k)) (binding : String)
    (index : Option String) : ∀ (items : List Value) (i : Nat), Steady scopes →
      Settles fun k => roundsTrace step (scopes k) binding index i items
  | [], _, _ => Settles.const _
  | item :: items, i, h =>
    Settles.map₂ Trace.andThen (hstep _ (h.inRound binding index i item))
      (settles_rounds hstep binding index items (i + 1) h)

theorem settles_branch {bodies : Nat → Trace} (hbody : Settles bodies) (h : Steady scopes) (props : Fields) :
    Settles fun k => branchTrace (bodies k) (scopes k) props := by
  unfold branchTrace
  split
  · exact Settles.const _
  · rename_i condition _
    have hopen : Settles fun k => condition.references.all (scopes k).isResolved && condition.holds (scopes k) := by
      refine Settles.map₂ (· && ·) ?_ (h.settles_holds condition)
      simp only [List.all_eq_not_any_not]
      refine (Steady.settles_any (fun n scope => !scope.isResolved n) (fun n => ?_) _).map not
      exact (h.settles_isResolved n).map not
    exact Settles.map₂ (fun isOpen body => if isOpen then body else {}) hopen hbody

theorem settles_intrinsic {children : Scope → Nat → Trace}
    (hchildren : ∀ inner : Nat → Scope, Steady inner → ∀ sections, Settles fun k => children (inner k) sections)
    (i : Intrinsic) (props : Fields) (h : Steady scopes) (sections : Nat) :
    Settles fun k => s.intrinsicTrace children i props (scopes k) sections := by
  cases i with
  | fragment => exact hchildren scopes h sections
  | branch => exact settles_branch (hchildren scopes h sections) h props
  | loop =>
    have hrounds : ∀ items : List Value, Settles fun k =>
        roundsTrace (fun inner => children inner sections) (scopes k) ((Fields.text? "as" props).getD "item")
          (Fields.text? "index" props) 0 items :=
      fun items => settles_rounds (fun inner hinner => hchildren inner hinner sections) _ _ items 0 h
    exact (h.settles_loopItems (Fields.get? "items" props)).bind hrounds
  | «section» => exact (hchildren scopes h (sections + 1)).map (Trace.framed _)
  | item => exact (hchildren scopes h sections).map (Trace.framed _)

theorem settles_component {nodes : Nat → Node → Trace} (hnodes : ∀ n, Settles fun k => nodes k n) (c : Component)
    (tag : String) (props : Fields) (children : List Node) :
    Settles fun k => s.componentTrace (nodes k) c tag props children := by
  unfold componentTrace
  split
  · exact Settles.const _
  · exact Settles.const _
  · refine Settles.map (Trace.andThen _) ?_
    split
    · exact hnodes _
    · exact Settles.const _

section Nodes
variable {elements : ElementTrace}

mutual
theorem settles_node (helements : elements.Settling) (h : Steady scopes) (sections : Nat) :
    ∀ n : Node, Settles fun k => s.nodeTrace elements (scopes k) sections n
  | .empty => Settles.const _
  | .text template => by
    obtain ⟨expanded, i, hi⟩ := (h.settles_expand s template).eventually
    match expanded with
    | .ok text => exact (Settles.const (.one (.text text.toList))).of_later i fun k hk => by rw [nodeTrace, hi k hk]
    | .error m => exact (Settles.const (.stop m)).of_later i fun k hk => by rw [nodeTrace, hi k hk]
  | .literal _ => Settles.const _
  | .fragment nodes => settles_nodes helements h sections nodes
  | .element tag props children => helements tag props children scopes sections h
theorem settles_nodes (helements : elements.Settling) (h : Steady scopes) (sections : Nat) :
    ∀ ns : List Node, Settles fun k => s.nodesTrace elements (scopes k) sections ns
  | [] => Settles.const _
  | n :: ns => Settles.map₂ Trace.andThen (settles_node helements h sections n) (settles_nodes helements h sections ns)
end

end Nodes

theorem settles_verdict (h : Steady scopes) (tag : String) (props : Fields) :
    Settles fun k => s.verdict tag props (scopes k) :=
  Settles.map₂ (Verdict.of (s.registry.resolve tag)) (h.settles_isWaiting s tag props) (h.settles_expandProps s props)

/-- The induction is on the room that is left for elements inside each other. -/
theorem settles_element : ∀ room : Nat, (s.elementTrace room).Settling
  | 0, _, _, _, _, _, _ => Settles.const _
  | room + 1, tag, props, children, scopes, sections, h => by
    obtain ⟨verdict, i, hi⟩ := (settles_verdict (s := s) h tag props).eventually
    -- From `i` on the element is read in one way, and what is left to settle is what it holds.
    cases verdict with
    | malformed m => exact (Settles.const (.stop m)).of_later i fun k hk => by rw [elementTrace_eq, hi k hk]
    | waiting => exact (Settles.const {}).of_later i fun k hk => by rw [elementTrace_eq, hi k hk]
    | refused expanded e =>
      exact (Settles.const (.one (.fault e))).of_later i fun k hk => by rw [elementTrace_eq, hi k hk]
    | handled expanded handler =>
      cases handler with
      | intrinsic intrinsic =>
        have hsettled : Settles fun k => s.intrinsicTrace
            (fun inner sections => s.nodesTrace (s.elementTrace room) inner sections children) intrinsic expanded
            (scopes k) sections :=
          settles_intrinsic (fun _ hinner sections => settles_nodes (settles_element room) hinner sections children)
            intrinsic expanded h sections
        exact hsettled.of_later i fun k hk => by rw [elementTrace_eq, hi k hk]
      | component c =>
        have hsettled : Settles fun k =>
            s.componentTrace (s.nodeTrace (s.elementTrace room) (scopes k) sections) c tag expanded children :=
          settles_component (settles_node (settles_element room) h sections) c tag expanded children
        exact hsettled.of_later i fun k hk => by rw [elementTrace_eq, hi k hk]

end Surroundings

/-! ### Growing answers -/

section Answers
variable {answers : Nat → Fields}

theorem Steady.of_answers (h : ∀ n, Settles fun k => Fields.get? n (answers k)) : Steady fun k => ⟨answers k, []⟩ := h

/-- What an event does depends on the answer to one input at most. -/
theorem Mode.settles_meet (mode : Mode) (h : ∀ n, Settles fun k => Fields.get? n (answers k)) (desk : Desk)
    (event : Event) : Settles fun k => mode.meet (answers k) desk event := by
  obtain ⟨d, outer⟩ := desk
  cases event with
  | input r =>
    obtain ⟨answer, i, hi⟩ := (h r.name).eventually
    refine ⟨i, fun k hk => ?_⟩
    simp only [Mode.meet, Mode.take, Mode.answer, Scope.answer?, hi k hk, hi i (Nat.le_refl i)]
  | leave frame => cases outer <;> exact Settles.const _
  | _ => exact Settles.const _

theorem Mode.settles_play (mode : Mode) (h : ∀ n, Settles fun k => Fields.get? n (answers k)) :
    ∀ (events : List Event) (desk : Desk), Settles fun k => mode.play (answers k) events desk
  | [], _ => Settles.const _
  | event :: events, desk => by
    obtain ⟨next, i, hi⟩ := (mode.settles_meet h desk event).eventually
    exact (mode.settles_play h events next).of_later i fun k hk => by
      simp only [Mode.play, List.foldl_cons, hi k hk]

/-- While answers are added and kept, a form in the end asks for the same inputs with the same errors. -/
theorem Form.discover_settles (f : Form) (h : ∀ n, Settles fun k => Fields.get? n (answers k)) :
    Settles fun k => f.discover (answers k) := by
  have htrace : Settles fun k => f.trace (answers k) :=
    Surroundings.settles_node (Surroundings.settles_element maxDepth) (Steady.of_answers h) 0 f.tree
  obtain ⟨t, i, hi⟩ := htrace.eventually
  obtain ⟨desk, j, hj⟩ := (Mode.discovery.settles_play h t.events ({}, [])).eventually
  have hlate : ∀ k, max i j ≤ k → f.discover (answers k) =
      ⟨desk.1.requirements, desk.1.errors ++ (t.halted.map RenderError.malformed).toList⟩ := fun k hk => by
    simp only [f.discover_eq, Form.draft, Form.ending, hi k (by omega), hj k (by omega)]
  exact (Settles.const _).of_later _ hlate

end Answers
end PromptForm
