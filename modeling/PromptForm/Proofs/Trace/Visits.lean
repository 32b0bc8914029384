import Mathlib.Logic.Relation
import PromptForm.Proofs.Trace.Sites

/-! # What a walk visits

A site is visited if the walk goes on to it in any number of steps. The answers stay the same on the way, and whatever
is found on the trace was met at a site that is visited (`Surroundings.exists_meets`). -/

namespace PromptForm.Surroundings
variable {s : Surroundings} {p q : Site}

/-- The walk from a site comes to another. -/
abbrev Visits (s : Surroundings) : Site → Site → Prop := Relation.ReflTransGen (Enters s)

/-- The answers of a scope are those of the place that the walk began at. -/
theorem answers_of_visits (h : s.Visits p q) : q.scope.answers = p.scope.answers := by
  induction h with
  | refl => rfl
  | tail _ hstep ih =>
    cases hstep with
    | member => exact ih
    | child _ hinner => exact (Intrinsic.answers_of_scopes hinner).trans ih
    | expansion => exact ih

theorem exists_meets {sections : Nat} {e : Event} (h : e ∈ (s.traceAt sections p).events) (hfinding : e.isFinding = true) :
    ∃ q, s.Visits p q ∧ s.Meets q e := by
  have hkeeps : s.Keeps (s.Visits p) fun e => ∃ q, s.Visits p q ∧ s.Meets q e :=
    ⟨fun hq hstep => hq.tail hstep, fun hq hmeets => ⟨_, hq, hmeets⟩⟩
  exact finds hkeeps .refl sections e h hfinding

end PromptForm.Surroundings
