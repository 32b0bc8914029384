import PromptForm.Proofs.Trace.Playing
import PromptForm.Proofs.Trace.Sites
import PromptForm.Proofs.Component.AskNames

/-! # The inputs of a trace

Every input that a walk meets was asked for by an input component whose props fit its schema
(`Surroundings.trace_declared`). In particular it is named by an identifier (`Surroundings.trace_name`). -/

namespace PromptForm

/-- An input that props ask for which fit the schema of its kind. -/
def Requirement.IsDeclared (r : Requirement) : Prop :=
  ∃ kind props, (Component.askSchema kind).violations (.object props) = [] ∧
    Component.askRequirement kind props = .ok r

theorem Requirement.IsDeclared.name {r : Requirement} (h : r.IsDeclared) : Text.isIdentifier r.name = true := by
  obtain ⟨kind, props, hfits, hr⟩ := h
  exact Component.askRequirement_name hfits hr

/-- A resolved component got props that fit its schema. -/
theorem Registry.resolve_fits {registry : Registry} {tag : String} {props : Fields} {h : Handler}
    (hr : registry.resolve tag props = .ok h) : h.schema.violations (.object props) = [] := by
  unfold resolve at hr
  split at hr
  · cases hr
  · split at hr
    · rename_i hfits
      cases hr
      exact hfits
    · cases hr

namespace Surroundings
variable {s : Surroundings} {tree : Node} {answers : Fields} {r : Requirement}

theorem declared_of_meets {p : Site} (h : s.Meets p (.input r)) : r.IsDeclared := by
  cases h with
  | input hhandles hask =>
    obtain ⟨kind, rfl, hr⟩ := Component.requirement_eq_some hask
    exact ⟨kind, _, Registry.resolve_fits hhandles.handler, hr⟩

/-- An input on a trace was met at an input component, whose props fit. -/
theorem trace_declared (h : .input r ∈ (s.trace tree answers).events) : r.IsDeclared := by
  have hkeeps : s.Keeps (fun _ => True) fun e => ∀ r, e = .input r → r.IsDeclared :=
    ⟨fun _ _ => trivial, fun _ hmeets r he => declared_of_meets (he ▸ hmeets)⟩
  exact finds (p := ⟨maxDepth, ⟨answers, []⟩, tree⟩) hkeeps trivial 0 _ h rfl r rfl

/-- Every input that a walk meets is named by an identifier. -/
theorem trace_name (h : .input r ∈ (s.trace tree answers).events) : Text.isIdentifier r.name = true :=
  (trace_declared h).name

end Surroundings
end PromptForm
