import PromptForm.Proofs.Trace.Playing
import PromptForm.Collection.Basic

/-! # Discovery and rendering in step

A discovery and a rendering with the same answers play the same trace. They differ at inputs without an
answer only: discovery notes the input, rendering puts something in its place and reports an input that
needs an answer as missing. Up to these reports both therefore end with the same errors
(`render_errors_eq_discover`). -/

namespace PromptForm

/-- The input that an error says is missing. -/
def RenderError.missing? : RenderError → Option String
  | .missingInput name => some name
  | _ => none

/-- Nothing can stand for the answer. -/
def Requirement.isNeeded (r : Requirement) : Bool := r.required && r.default.isNone

/-- A discovery and a rendering have met the same events: up to missing inputs they have the same errors,
    and these are the noted inputs that need an answer. -/
structure InStep (d e : Draft) : Prop where
  seen : e.seen = d.seen
  errors : e.errors.filter (fun x => x.missing?.isNone) = d.errors
  missing : e.errors.filterMap RenderError.missing? = (d.requirements.filter Requirement.isNeeded).map (·.name)

namespace InStep
variable {d e : Draft} {answers : Fields}

/-- The text does not count. -/
theorem of_eq {d' e' : Draft} (h : InStep d e) (hs : d'.seen = d.seen) (hs' : e'.seen = e.seen)
    (he : d'.errors = d.errors) (he' : e'.errors = e.errors) (hr : d'.requirements = d.requirements) : InStep d' e' where
  seen := by rw [hs, hs', h.seen]
  errors := by rw [he, he', h.errors]
  missing := by rw [he', hr, h.missing]

theorem write (h : InStep d e) (cs cs' : List Char) : InStep (d.write cs) (e.write cs') :=
  h.of_eq rfl rfl rfl rfl rfl

theorem skip (h : InStep d e) (p : PropsError) : InStep (d.skip p) (e.skip p) where
  seen := h.seen
  errors := by
    show (e.errors ++ [RenderError.props p]).filter _ = d.errors ++ [RenderError.props p]
    rw [List.filter_append, h.errors]
    rfl
  missing := by
    show (e.errors ++ [RenderError.props p]).filterMap _ = _
    rw [List.filterMap_append, h.missing]
    exact List.append_nil _

/-- A missing input is reported by the rendering where the discovery notes it. -/
theorem report (h : InStep d e) {r : Requirement} (hr : r.isNeeded = true) :
    InStep { d with requirements := d.requirements ++ [r] } (e.report (.missingInput r.name)) where
  seen := h.seen
  errors := by
    show (e.errors ++ [RenderError.missingInput r.name]).filter _ = d.errors
    rw [List.filter_append, h.errors]
    exact List.append_nil _
  missing := by
    show (e.errors ++ [RenderError.missingInput r.name]).filterMap _ = ((d.requirements ++ [r]).filter _).map _
    rw [List.filterMap_append, h.missing, List.filter_append, List.map_append]
    simp [hr, RenderError.missing?]

/-- An input that has something in its place is noted, and the rendering goes on. -/
theorem note (h : InStep d e) {r : Requirement} (hr : r.isNeeded = false) :
    InStep { d with requirements := d.requirements ++ [r] } e where
  seen := h.seen
  errors := h.errors
  missing := by
    show _ = ((d.requirements ++ [r]).filter _).map _
    rw [h.missing, List.filter_append]
    simp [hr]

theorem take (h : InStep d e) (r : Requirement) :
    InStep (Mode.discovery.take answers r d) (Mode.final.take answers r e) := by
  have hseen : ∀ names : List String, InStep { d with seen := names } { e with seen := names } := fun names =>
    ⟨rfl, h.errors, h.missing⟩
  unfold Mode.take
  rw [h.seen]
  split
  · exact h.skip _
  · simp only [Mode.answer]
    cases hv : Scope.answer? ⟨answers, []⟩ r.name with
    | some v => exact (hseen _).write _ _
    | none =>
      cases hd : r.default with
      | some v =>
        have hr : r.isNeeded = false := by simp [Requirement.isNeeded, hd]
        simpa [Mode.substitute, hd] using ((hseen _).note hr).write [] v.display.toList
      | none =>
        cases hq : r.required with
        | true =>
          have hr : r.isNeeded = true := by simp [Requirement.isNeeded, hd, hq]
          simpa [Mode.substitute, hd, hq] using ((hseen _).report hr).write [] []
        | false =>
          have hr : r.isNeeded = false := by simp [Requirement.isNeeded, hq]
          simpa [Mode.substitute, hd, hq] using ((hseen _).note hr).write [] r.kind.emptyValue.display.toList

theorem meet {x y : Desk} (h : InStep x.1 y.1) (event : Event) :
    InStep (Mode.discovery.meet answers x event).1 (Mode.final.meet answers y event).1 := by
  obtain ⟨d, outer⟩ := x
  obtain ⟨e, outer'⟩ := y
  cases event with
  | text cs => exact h.write cs cs
  | fault p => exact h.skip p
  | input r => exact h.take r
  | action a => exact h.of_eq rfl rfl rfl rfl rfl
  | enter => exact h.of_eq rfl rfl rfl rfl rfl
  | leave frame => cases outer <;> cases outer' <;> exact h.of_eq rfl rfl rfl rfl rfl

/-- The induction is on the events that both passes play. -/
theorem play {x y : Desk} (h : InStep x.1 y.1) (events : List Event) :
    InStep (Mode.discovery.play answers events x).1 (Mode.final.play answers events y).1 := by
  induction events generalizing x y with
  | nil => exact h
  | cons event events ih => exact ih (h.meet event)

end InStep

/-! ### Findings -/

namespace Form
variable (f : Form) (answers : Fields)

/-- What a walk over the tree of a form meets. -/
def trace : Trace := Surroundings.trace ⟨f.registry, f.ctx⟩ f.tree answers

/-- What a pass makes of it. -/
def draft (mode : Mode) : Draft := (mode.play answers (f.trace answers).events ({}, [])).1

/-- The error that the walk ended with, if it did. -/
def ending : List RenderError := ((f.trace answers).halted.map RenderError.malformed).toList

theorem discover_eq : f.discover answers =
    ⟨(f.draft answers .discovery).requirements, (f.draft answers .discovery).errors ++ f.ending answers⟩ := by
  simp only [discover, PromptForm.discover, Setting.run_eq_play, Draft.allErrors]
  rfl

theorem render_errors : (f.render answers).errors = (f.draft answers .final).errors ++ f.ending answers := by
  simp only [render, PromptForm.render, Setting.run_eq_play, Draft.allErrors]
  rfl

theorem drafts_inStep : InStep (f.draft answers .discovery) (f.draft answers .final) :=
  InStep.play (x := ({}, [])) (y := ({}, [])) ⟨rfl, rfl, rfl⟩ (f.trace answers).events

theorem ending_missing? : (f.ending answers).filterMap RenderError.missing? = [] := by
  unfold ending
  cases (f.trace answers).halted <;> rfl

theorem ending_filter :
    (f.ending answers).filter (fun e => e.missing?.isNone) = f.ending answers := by
  unfold ending
  cases (f.trace answers).halted <;> rfl

/-- Apart from missing inputs a rendering has the errors of the discovery, in the same order. -/
theorem render_errors_filter :
    (f.render answers).errors.filter (fun e => e.missing?.isNone) = (f.discover answers).errors := by
  rw [render_errors, discover_eq, List.filter_append, ending_filter, (f.drafts_inStep answers).errors]

/-- The inputs missing in a rendering are those of the discovery that need an answer, in the same order. -/
theorem render_missing : (f.render answers).errors.filterMap RenderError.missing? =
    ((f.discover answers).requirements.filter Requirement.isNeeded).map (·.name) := by
  rw [render_errors, discover_eq, List.filterMap_append, ending_missing?, List.append_nil,
    (f.drafts_inStep answers).missing]

/-- A rendering in which no input is missing has just the errors of the discovery. -/
theorem render_errors_of_not_missing (h : (f.render answers).errors.filterMap RenderError.missing? = []) :
    (f.render answers).errors = (f.discover answers).errors := by
  rw [← render_errors_filter]
  refine (List.filter_eq_self.mpr fun e he => ?_).symm
  rw [Option.isNone_iff_eq_none]
  exact List.filterMap_eq_nil_iff.mp h e he

end Form

/-- A missing input ends no pass. -/
theorem RenderError.missing?_of_isFatal {e : RenderError} (h : e.isFatal = true) : e.missing? = none := by
  cases e <;> first | rfl | cases h

/-- Discovery and rendering reach the same elements. With the same answers a rendering has the errors of
    the discovery and, in between, one missing input for each input found that needs an answer. So it is
    faultless just if the discovery is and no input needs an answer, and the same fatal error ends both. -/
theorem render_errors_eq_discover (f : Form) (answers : Fields) :
    (f.render answers).errors.filter (fun e => e.missing?.isNone) = (f.discover answers).errors ∧
    (f.render answers).errors.filterMap RenderError.missing? =
      ((f.discover answers).requirements.filter Requirement.isNeeded).map (·.name) ∧
    ((f.render answers).ok = true ↔ (f.discover answers).errors = [] ∧
      ∀ r ∈ (f.discover answers).requirements, r.required = false ∨ r.default.isSome = true) ∧
    (f.render answers).errors.find? RenderError.isFatal = (f.discover answers).fatal? := by
  refine ⟨f.render_errors_filter answers, f.render_missing answers, ?_, ?_⟩
  · have hneeded : ((f.discover answers).requirements.filter Requirement.isNeeded).map (·.name) = [] ↔
        ∀ r ∈ (f.discover answers).requirements, r.required = false ∨ r.default.isSome = true := by
      simp only [List.map_eq_nil_iff, List.filter_eq_nil_iff, Requirement.isNeeded, Bool.and_eq_true, not_and,
        Option.isNone_iff_eq_none]
      refine forall₂_congr fun r _ => ?_
      cases r.required <;> cases r.default <;> simp
    rw [Rendered.ok, List.isEmpty_iff, ← hneeded, ← f.render_missing, ← f.render_errors_filter]
    constructor
    · intro h
      simp [h]
    · rintro ⟨hfaults, hmissing⟩
      rwa [f.render_errors_of_not_missing answers hmissing, ← f.render_errors_filter]
  · rw [Discovery.fatal?, ← f.render_errors_filter, List.find?_filter]
    congr 1
    funext e
    cases he : e.isFatal with
    | false => simp
    | true => simp [RenderError.missing?_of_isFatal he]

end PromptForm
