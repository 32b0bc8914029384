import PromptForm.Proofs.Trace.Basic
import PromptForm.Proofs.Locality.Scope

/-! # A pass plays its trace

The walk of a pass and the trace of the same tree go through the same cases, so that the draft of a pass is
what its mode makes of the trace (`Setting.run_eq_play`). `Plays` says this of one step of the walk; it
holds of the smallest steps, and every way to put steps together keeps it. -/

namespace PromptForm

theorem Mode.play_append (mode : Mode) (answers : Fields) (es fs : List Event) (desk : Desk) :
    mode.play answers (es ++ fs) desk = mode.play answers fs (mode.play answers es desk) := by
  simp only [play, List.foldl_append]

/-- A step of the walk leaves the draft that its trace makes, and ends where its trace ends. -/
structure Plays (mode : Mode) (answers : Fields) (t : Trace) (step : Draft → Draft) : Prop where
  desk : ∀ d outer, d.halted = none →
    mode.play answers t.events (d, outer) = ({ step d with halted := none }, outer)
  halted : ∀ d, d.halted = none → (step d).halted = t.halted

theorem Draft.running_eq {d : Draft} (h : d.halted = none) : { d with halted := none } = d := by
  rw [← h]

namespace Plays
variable {mode : Mode} {answers : Fields} {t u : Trace} {step next : Draft → Draft}

/-- A step that does not end the pass plays what takes every draft where the step takes it. -/
theorem of_running (events : List Event) (hplay : ∀ d outer, d.halted = none →
    mode.play answers events (d, outer) = (step d, outer) ∧ (step d).halted = none) :
    Plays mode answers ⟨events, none⟩ step where
  desk d outer hd := by
    obtain ⟨hplay, hrun⟩ := hplay d outer hd
    rw [hplay, Draft.running_eq hrun]
  halted d hd := (hplay d [] hd).2

/-- Only what a step does to a draft that has not ended counts. -/
theorem congr {step' : Draft → Draft} (ht : Plays mode answers t step)
    (h : ∀ d, d.halted = none → step' d = step d) : Plays mode answers t step' where
  desk d outer hd := by rw [h d hd, ht.desk d outer hd]
  halted d hd := by rw [h d hd, ht.halted d hd]

theorem nil : Plays mode answers {} fun d => d :=
  of_running [] fun _ _ hd => ⟨rfl, hd⟩

theorem text (cs : List Char) : Plays mode answers (.one (.text cs)) (·.write cs) :=
  of_running _ fun _ _ hd => ⟨rfl, hd⟩

theorem fault (e : PropsError) : Plays mode answers (.one (.fault e)) (·.skip e) :=
  of_running _ fun _ _ hd => ⟨rfl, hd⟩

theorem stop (m : Malformed) : Plays mode answers (.stop m) (·.halt m) where
  desk d outer hd := by
    show (d, outer) = _
    rw [show ({ d.halt m with halted := none } : Draft) = { d with halted := none } from rfl, Draft.running_eq hd]
  halted _ _ := rfl

theorem andThen (ht : Plays mode answers t step) (hu : Plays mode answers u next) :
    Plays mode answers (t.andThen u) fun d => (step d).andThen next := by
  cases hend : t.halted with
  | some m =>
    have hsteps : ∀ d, d.halted = none → (step d).andThen next = step d := fun d hd => by
      simp [Draft.andThen, ht.halted d hd, hend]
    have htrace : t.andThen u = t := by simp [Trace.andThen, hend]
    constructor
    · intro d outer hd
      rw [htrace, hsteps d hd]
      exact ht.desk d outer hd
    · intro d hd
      rw [htrace, hsteps d hd]
      exact ht.halted d hd
  | none =>
    have hrun : ∀ d, d.halted = none → (step d).halted = none := fun d hd => (ht.halted d hd).trans hend
    have hsteps : ∀ d, d.halted = none → (step d).andThen next = next (step d) := fun d hd => by
      simp [Draft.andThen, hrun d hd]
    have htrace : t.andThen u = ⟨t.events ++ u.events, u.halted⟩ := by simp [Trace.andThen, hend]
    constructor
    · intro d outer hd
      rw [htrace, hsteps d hd, Mode.play_append, ht.desk d outer hd, Draft.running_eq (hrun d hd)]
      exact hu.desk (step d) outer (hrun d hd)
    · intro d hd
      rw [htrace, hsteps d hd]
      exact hu.halted (step d) (hrun d hd)

theorem framed (frame : Frame) (ht : Plays mode answers t step) :
    Plays mode answers (t.framed frame) (Setting.collected step frame.place) where
  desk d outer hd := by
    show mode.play answers (t.events ++ [.leave frame]) ({ d with text := [] }, d.text :: outer) = _
    rw [Mode.play_append, ht.desk { d with text := [] } (d.text :: outer) hd]
    rfl
  halted d hd := ht.halted { d with text := [] } hd

end Plays

section Walk
variable {s : Setting} {answers : Fields}

/-! ### Inputs -/

theorem Mode.answer_halted (mode : Mode) (scope : Scope) (r : Requirement) (d : Draft) :
    (mode.answer scope r d).2.halted = d.halted := by
  unfold answer
  split
  · rfl
  · cases mode with
    | discovery => rfl
    | final => cases hv : r.default <;> cases hq : r.required <;> simp [substitute, hv, hq, Draft.report]

/-- Only inputs ask. -/
theorem Component.requirement_eq_some {c : Component} {props : Fields} {r : Requirement}
    (h : c.requirement props = .ok (some r)) : ∃ kind, c = .ask kind ∧ askRequirement kind props = .ok r := by
  cases c <;> try cases h
  case ask kind =>
    refine ⟨kind, rfl, ?_⟩
    simp only [requirement] at h
    cases hr : askRequirement kind props with
    | error e => rw [hr] at h; cases h
    | ok r' => rw [hr] at h; cases h; rfl

theorem Draft.write_nil (d : Draft) : d.write [] = d := by
  simp [write]

theorem plays_input (element : ElementStep) {kind : InputKind} {tag : String} {props : Fields}
    {children : List Node} {scope : Scope} (sections : Nat) (hs : scope.answers = answers) {r : Requirement}
    (hr : (Component.ask kind).requirement props = .ok (some r)) :
    Plays s.mode answers (.one (.input r))
      (s.component (s.walk element scope sections) (.ask kind) tag props children scope) := by
  have hanswer : ∀ d, s.mode.answer scope r d = s.mode.answer ⟨answers, []⟩ r d := fun d => by
    subst hs
    rfl
  refine Plays.of_running _ fun d outer hd => ?_
  -- An input of a name that was met before is skipped as a duplicate.
  by_cases hseen : r.name ∈ d.seen
  · have hstep : s.component (s.walk element scope sections) (.ask kind) tag props children scope d =
        d.skip (.duplicateInput r.name) := by
      simp [Setting.component, Setting.resolved, hr, hseen]
    rw [hstep]
    refine ⟨?_, hd⟩
    show (s.mode.take answers r d, outer) = _
    simp [Mode.take, hseen]
  · have hstep : s.component (s.walk element scope sections) (.ask kind) tag props children scope d =
        s.mode.take answers r d := by
      simp only [Setting.component, Setting.resolved, hr, Mode.take, hanswer, List.contains_iff_mem, hseen,
        ↓reduceIte, Component.action?, Component.render, Option.toList, List.append_nil]
      cases (s.mode.answer ⟨answers, []⟩ r { d with seen := r.name :: d.seen }).1 with
      | none => simp [Setting.walk, Draft.write_nil]
      | some v => simp [Setting.walk]
    rw [hstep]
    refine ⟨rfl, ?_⟩
    have hhalted := s.mode.answer_halted ⟨answers, []⟩ r { d with seen := r.name :: d.seen }
    simpa [Mode.take, hseen, Draft.write] using hhalted.trans hd

/-! ### Components and intrinsic elements -/

theorem plays_component {element : ElementStep} {elements : ElementTrace} {scope : Scope} {sections : Nat}
    (hs : scope.answers = answers)
    (hnode : ∀ n, Plays s.mode answers (s.nodeTrace elements scope sections n) (s.walk element scope sections n))
    (c : Component) (tag : String) (props : Fields) (children : List Node) :
    Plays s.mode answers (s.componentTrace (s.nodeTrace elements scope sections) c tag props children)
      (s.component (s.walk element scope sections) c tag props children scope) := by
  unfold Surroundings.componentTrace
  cases hr : c.requirement props with
  | error e =>
    have hstep : s.component (s.walk element scope sections) c tag props children scope = (·.skip e) := by
      funext d
      simp [Setting.component, Setting.resolved, hr]
    rw [hstep]
    exact Plays.fault e
  | ok asked =>
    cases asked with
    | some r =>
      obtain ⟨kind, rfl, -⟩ := Component.requirement_eq_some hr
      exact plays_input element sections hs hr
    | none =>
      -- Actions are collected before the component is rendered, so they stay if it cannot be.
      have hactions : Plays s.mode answers ⟨(c.action? props s.ctx).toList.map .action, none⟩
          fun d => { d with actions := d.actions ++ (c.action? props s.ctx).toList } := by
        refine Plays.of_running _ fun d outer hd => ⟨?_, hd⟩
        cases c.action? props s.ctx with
        | none => simp [Mode.play]
        | some a => rfl
      cases hrender : c.render ⟨tag, props, children, none⟩ s.ctx with
      | ok n =>
        refine (hactions.andThen (hnode n)).congr fun d hd => ?_
        simp only [Setting.component, Setting.resolved, hr, hrender, Draft.andThen, hd]
        rfl
      | error e =>
        refine (hactions.andThen (Plays.fault e)).congr fun d hd => ?_
        simp only [Setting.component, Setting.resolved, hr, hrender, Draft.andThen, hd]
        rfl

theorem plays_rounds {step : Scope → Draft → Draft} {steps : Scope → Trace} {binding : String}
    {index : Option String} {scope : Scope}
    (hstep : ∀ inner : Scope, inner.answers = scope.answers → Plays s.mode answers (steps inner) (step inner)) :
    ∀ (items : List Value) (i : Nat), Plays s.mode answers (Surroundings.roundsTrace steps scope binding index i items)
      (Setting.rounds step scope binding index i items)
  | [], _ => Plays.nil
  | item :: items, i =>
    (hstep _ (scope.answers_inRound binding index i item)).andThen (plays_rounds hstep items (i + 1))

theorem plays_branch {step : Draft → Draft} {body : Trace} (hbody : Plays s.mode answers body step) (scope : Scope)
    (props : Fields) :
    Plays s.mode answers (Surroundings.branchTrace body scope props) (Setting.branch step scope props) := by
  unfold Surroundings.branchTrace
  cases hc : Condition.ofValue ((Fields.get? "when" props).getD .null) with
  | error m => exact (Plays.stop m).congr fun d _ => by simp only [Setting.branch, hc]
  | ok condition =>
    by_cases hopen : condition.references.all scope.isResolved && condition.holds scope
    · simp only [hopen, ↓reduceIte]
      exact hbody.congr fun d _ => by simp only [Setting.branch, hc, hopen, ↓reduceIte]
    · simp only [hopen, Bool.false_eq_true, ↓reduceIte]
      exact Plays.nil.congr fun d _ => by simp only [Setting.branch, hc, hopen, Bool.false_eq_true, ↓reduceIte]

theorem plays_intrinsic {children : Scope → Nat → Draft → Draft} {childrens : Scope → Nat → Trace} {scope : Scope}
    (hchildren : ∀ inner : Scope, inner.answers = scope.answers → ∀ sections,
      Plays s.mode answers (childrens inner sections) (children inner sections))
    (i : Intrinsic) (props : Fields) (sections : Nat) :
    Plays s.mode answers (s.intrinsicTrace childrens i props scope sections)
      (s.intrinsic children i props scope sections) := by
  cases i with
  | fragment => exact hchildren scope rfl sections
  | branch => exact plays_branch (hchildren scope rfl sections) scope props
  | loop => exact plays_rounds (fun inner hinner => hchildren inner hinner sections) _ 0
  | «section» => exact (hchildren scope rfl (sections + 1)).framed _
  | item => exact (hchildren scope rfl sections).framed _

/-! ### Nodes and elements -/

/-- What is met at elements is played by what is done with them, whatever is bound. -/
def PlaysElements (s : Setting) (answers : Fields) (elements : ElementTrace) (element : ElementStep) : Prop :=
  ∀ tag props children (scope : Scope) sections, scope.answers = answers →
    Plays s.mode answers (elements tag props children scope sections) (element tag props children scope sections)

section Nodes
variable {element : ElementStep} {elements : ElementTrace}

mutual
theorem plays_node (helement : PlaysElements s answers elements element) {scope : Scope} (hs : scope.answers = answers) (sections : Nat) :
    ∀ n : Node, Plays s.mode answers (s.nodeTrace elements scope sections n) (s.walk element scope sections n)
  | .empty => Plays.nil
  | .text template => by
    simp only [Surroundings.nodeTrace]
    cases he : s.expand scope template with
    | ok text => exact (Plays.text text.toList).congr fun d _ => by simp only [Setting.walk, he]
    | error m => exact (Plays.stop m).congr fun d _ => by simp only [Setting.walk, he]
  | .literal text => Plays.text text.toList
  | .fragment nodes => plays_nodes helement hs sections nodes
  | .element tag props children => helement tag props children scope sections hs
termination_by structural n => n
theorem plays_nodes (helement : PlaysElements s answers elements element) {scope : Scope} (hs : scope.answers = answers) (sections : Nat) :
    ∀ ns : List Node,
      Plays s.mode answers (s.nodesTrace elements scope sections ns) (s.walkAll element scope sections ns)
  | [] => Plays.nil
  | n :: ns => (plays_node helement hs sections n).andThen (plays_nodes helement hs sections ns)
termination_by structural ns => ns
end

end Nodes

/-- The induction is on the room that is left for elements inside each other. -/
theorem plays_element : ∀ room : Nat, PlaysElements s answers (s.elementTrace room) (s.element room)
  | 0, tag, _, _, _, _, _ => Plays.fault (.depthExceeded tag maxDepth)
  | room + 1, tag, props, children, scope, sections, hs => by
    rw [Surroundings.elementTrace_eq]
    have hnode := @plays_node s answers (s.element room) (s.elementTrace room) (plays_element room)
    have hnodes := @plays_nodes s answers (s.element room) (s.elementTrace room) (plays_element room)
    cases hverdict : s.verdict tag props scope with
    | malformed m => exact (Plays.stop m).congr fun d _ => by rw [Setting.element_eq, hverdict]
    | waiting => exact Plays.nil.congr fun d _ => by rw [Setting.element_eq, hverdict]
    | refused expanded e => exact (Plays.fault e).congr fun d _ => by rw [Setting.element_eq, hverdict]
    | handled expanded handler =>
      cases handler with
      | intrinsic i =>
        have hchildren : ∀ inner : Scope, inner.answers = scope.answers → ∀ sections, Plays s.mode answers
            (s.nodesTrace (s.elementTrace room) inner sections children)
            (s.walkAll (s.element room) inner sections children) := fun inner hinner sections =>
          hnodes (hinner.trans hs) sections children
        exact (plays_intrinsic hchildren i expanded sections).congr fun d _ => by rw [Setting.element_eq, hverdict]
      | component c =>
        exact (plays_component hs (hnode hs sections) c tag expanded children).congr fun d _ => by
          rw [Setting.element_eq, hverdict]

end Walk

/-! ### Passes -/

/-- A pass gathers what its mode makes of the trace, and is ended by what ended the trace. -/
theorem Setting.run_eq_play (s : Setting) (tree : Node) (answers : Fields) :
    s.run tree answers =
      { (s.mode.play answers (s.trace tree answers).events ({}, [])).1 with
        halted := (s.trace tree answers).halted } := by
  have helements : PlaysElements s answers (s.elementTrace maxDepth) (s.element maxDepth) := plays_element maxDepth
  have hanswers : Scope.answers ⟨answers, []⟩ = answers := rfl
  have hplays := plays_node helements hanswers 0 tree
  have hdesk := hplays.desk {} [] rfl
  have hhalted := hplays.halted {} rfl
  simp only [Surroundings.trace, hdesk, ← hhalted]
  rfl

end PromptForm
