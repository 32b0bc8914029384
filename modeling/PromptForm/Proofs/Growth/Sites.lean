import PromptForm.Proofs.Growth.Scope
import PromptForm.Proofs.Trace.Parallel

/-! # Two walks in step

A second walk with more answers comes to the same sites and to others in between, as long as it reads every site like
the first (`Alike`). What can be said of the two traces then depends on what a relation between traces allows
(`Lockstep`): it has to bear that the first walk leaves a part out, and that nothing is known of what comes after the
end of the second (`Surroundings.lockstep`). -/

namespace PromptForm

/-- From a site on, everything that one walk reads a walk with later answers reads alike, or else the relation
    holds of what the two meet there. -/
structure Alike (R : Trace → Trace → Prop) (s : Surroundings) (later : Fields) (p : Site) : Prop where
  texts : ∀ {room scope template}, s.Visits p ⟨room, scope, .text template⟩ →
    ∀ sections, R (s.traceAt sections ⟨room, scope, .text template⟩)
      (s.traceAt sections ⟨room, scope.answering later, .text template⟩)
  elements : ∀ {room scope tag props children}, s.Visits p ⟨room + 1, scope, .element tag props children⟩ →
    s.isWaiting tag props scope = .ok false →
      s.expandProps (scope.answering later) props = s.expandProps scope props ∨
      ∀ sections, R (s.traceAt sections ⟨room + 1, scope, .element tag props children⟩)
        (s.traceAt sections ⟨room + 1, scope.answering later, .element tag props children⟩)

/-- A relation that holds of walks in step: the first may leave a part out, and of what follows the end of the
    second nothing is asked. -/
structure Lockstep (R : Trace → Trace → Prop) : Prop extends Stepwise R where
  empty : ∀ u, R {} u

theorem Intrinsic.opens_answering {scope : Scope} {later : Fields} (hkept : Fields.Kept scope.answers later) {props : Fields}
    (h : opens props scope = true) : opens props (scope.answering later) = true := by
  unfold opens at h ⊢
  split at h
  · cases h
  · obtain ⟨hresolved, hholds⟩ := Bool.and_eq_true_iff.mp h
    obtain ⟨hall, hsame⟩ := Condition.holds_answering hkept hresolved
    exact Bool.and_eq_true_iff.mpr ⟨hall, hsame.trans hholds⟩

namespace Surroundings
variable {R : Trace → Trace → Prop} {s : Surroundings} {later : Fields} {p : Site}

/-- With later answers an intrinsic element has its children walked in the same scopes, unless so far it meets nothing
    at all. -/
theorem scopes_answering {scope : Scope} (hkept : Fields.Kept scope.answers later) (i : Intrinsic) (props : Fields) :
    i.scopes props (scope.answering later) = (i.scopes props scope).map (·.answering later) ∨
      ∀ children sections, s.intrinsicTrace children i props scope sections = {} := by
  cases i with
  | branch =>
    cases hopen : Intrinsic.opens props scope with
    | true => exact .inl (Intrinsic.scopes_branch ((Intrinsic.opens_answering hkept hopen).trans hopen.symm))
    | false =>
      cases hread : Condition.ofValue ((Fields.get? "when" props).getD .null) with
      | error m => exact .inl (by simp [Intrinsic.scopes, Intrinsic.opens, hread])
      | ok condition =>
        refine .inr fun children sections => ?_
        simp only [intrinsicTrace_eq, Intrinsic.malformed?, hread, Intrinsic.scopes, hopen]
        rfl
  | loop =>
    rcases loopItems_answering hkept (Fields.get? "items" props) with hnone | hsame
    · refine .inr fun children sections => ?_
      simp only [intrinsicTrace, hnone]
      rfl
    · exact .inl (Intrinsic.scopes_loop hsame)
  | _ => exact .inl rfl

/-- Where later answers have an element walked for the first time, the first walk meets nothing. -/
theorem parallel_of_alike (hR : Lockstep R) (hkept : Fields.Kept p.scope.answers later) (h : Alike R s later p) :
    Parallel R s later p where
  texts := h.texts
  elements {room scope tag props children} hq := by
    have hscope : Fields.Kept scope.answers later := answers_of_visits hq ▸ hkept
    -- A malformed condition and the decision to walk an element stay; one that waits meets nothing yet.
    cases hdecided : s.isWaiting tag props scope with
    | error m =>
      refine .inr fun sections => ?_
      simp only [traceAt, Site.answering, nodeTrace, elementTrace, hdecided, isWaiting_error hdecided]
      exact hR.refl _
    | ok waiting =>
      cases waiting with
      | true =>
        refine .inr fun sections => ?_
        have hempty : s.traceAt sections ⟨room + 1, scope, .element tag props children⟩ = {} := by
          simp only [traceAt, nodeTrace, elementTrace, hdecided]
        rw [hempty]
        exact hR.empty _
      | false => exact (h.elements hq hdecided).imp_left fun hprops => ⟨isWaiting_answering hscope hdecided, hprops⟩
  scopes {room scope tag props children expanded i} hq hhandles := by
    have hscope : Fields.Kept scope.answers later := answers_of_visits hq ▸ hkept
    rcases scopes_answering (s := s) hscope i expanded with hsame | hnone
    · exact .inl hsame
    · refine .inr fun sections => ?_
      have hempty : s.traceAt sections ⟨room + 1, scope, .element tag props children⟩ = {} :=
        (elementTrace_intrinsic hhandles room).trans (hnone _ sections)
      rw [hempty]
      exact hR.empty _

/-- From a site on two walks are in step if they agree. -/
theorem lockstep (hR : Lockstep R) (hkept : Fields.Kept p.scope.answers later) (h : Alike R s later p)
    (sections : Nat) : R (s.traceAt sections p) (s.traceAt sections (p.answering later)) :=
  related hR.toStepwise (parallel_of_alike hR hkept h) sections

end Surroundings
end PromptForm
