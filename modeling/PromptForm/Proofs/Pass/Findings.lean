import PromptForm.Proofs.Trace.Playing
import PromptForm.Pass.Result

/-! # What a trace leads to

The inputs and errors of a pass come from the inputs and faults on its trace, its actions from the actions there. Text
and the frames around it lead to text only. So two walks that meet the same inputs and faults, and the same actions if
these count, and end alike have the same findings (`findings_eq`). -/

namespace PromptForm

/-- Inputs and faults count, and actions if they are asked about. -/
def Event.counts (actions : Bool) : Event → Bool
  | .fault _ | .input _ => true
  | .action _ => actions
  | .text _ | .enter | .leave _ => false

/-- The same events that count are met, and the walks end alike. -/
structure Trace.SameFindings (actions : Bool) (t u : Trace) : Prop where
  events : t.events.filter (Event.counts actions) = u.events.filter (Event.counts actions)
  halted : t.halted = u.halted

namespace Trace.SameFindings
variable {actions : Bool} {t u v t' u' : Trace}

theorem refl (t : Trace) : SameFindings actions t t := ⟨rfl, rfl⟩

theorem symm (h : SameFindings actions t u) : SameFindings actions u t := ⟨h.events.symm, h.halted.symm⟩

theorem trans (h : SameFindings actions t u) (h' : SameFindings actions u v) : SameFindings actions t v :=
  ⟨h.events.trans h'.events, h.halted.trans h'.halted⟩

theorem text (cs cs' : List Char) : SameFindings actions (.one (.text cs)) (.one (.text cs')) := ⟨rfl, rfl⟩

theorem andThen (h : SameFindings actions t u) (h' : SameFindings actions t' u') :
    SameFindings actions (t.andThen t') (u.andThen u') := by
  unfold Trace.andThen
  rw [← h.halted]
  split
  · exact h
  · exact ⟨by rw [List.filter_append, List.filter_append, h.events, h'.events], h'.halted⟩

/-- The frames may differ. -/
theorem framed (h : SameFindings actions t u) (frame frame' : Frame) :
    SameFindings actions (t.framed frame) (u.framed frame') where
  events := by simp [Trace.framed, Event.counts, h.events]
  halted := h.halted

end Trace.SameFindings

/-! ### Drafts -/

/-- Drafts with the same inputs and errors, and with the same actions if these count. -/
structure Draft.SameFindings (actions : Bool) (d e : Draft) : Prop where
  seen : d.seen = e.seen
  requirements : d.requirements = e.requirements
  errors : d.errors = e.errors
  actions : actions = true → d.actions = e.actions

namespace Draft.SameFindings
variable {actions : Bool} {d e c : Draft} {mode : Mode} {answers : Fields}

theorem refl (d : Draft) : SameFindings actions d d := ⟨rfl, rfl, rfl, fun _ => rfl⟩

theorem symm (h : SameFindings actions d e) : SameFindings actions e d :=
  ⟨h.seen.symm, h.requirements.symm, h.errors.symm, fun ha => (h.actions ha).symm⟩

theorem trans (h : SameFindings actions d e) (h' : SameFindings actions e c) : SameFindings actions d c :=
  ⟨h.seen.trans h'.seen, h.requirements.trans h'.requirements, h.errors.trans h'.errors,
    fun ha => (h.actions ha).trans (h'.actions ha)⟩

theorem write (h : SameFindings actions d e) (cs cs' : List Char) :
    SameFindings actions (d.write cs) (e.write cs') := ⟨h.seen, h.requirements, h.errors, h.actions⟩

theorem report (h : SameFindings actions d e) (x : RenderError) :
    SameFindings actions (d.report x) (e.report x) where
  seen := h.seen
  requirements := h.requirements
  errors := congrArg (· ++ [x]) h.errors
  actions := h.actions

theorem answer (h : SameFindings actions d e) (scope : Scope) (r : Requirement) :
    (mode.answer scope r d).1 = (mode.answer scope r e).1 ∧
      SameFindings actions (mode.answer scope r d).2 (mode.answer scope r e).2 := by
  unfold Mode.answer
  split
  · exact ⟨rfl, h⟩
  · cases mode with
    | discovery => exact ⟨rfl, h.seen, congrArg (· ++ [r]) h.requirements, h.errors, h.actions⟩
    | final =>
      simp only [Mode.substitute]
      split
      · exact ⟨rfl, h⟩
      · split
        · exact ⟨rfl, h.report _⟩
        · exact ⟨rfl, h⟩

theorem take (h : SameFindings actions d e) (r : Requirement) :
    SameFindings actions (mode.take answers r d) (mode.take answers r e) := by
  unfold Mode.take
  rw [← h.seen]
  split
  · exact h.report _
  · have hseen : SameFindings actions { d with seen := r.name :: d.seen } { e with seen := r.name :: d.seen } :=
      ⟨rfl, h.requirements, h.errors, h.actions⟩
    exact (hseen.answer ⟨answers, []⟩ r).2.write _ _

/-- The texts around open frames may differ. -/
theorem meet {x y : Desk} (h : SameFindings actions x.1 y.1) (event : Event) :
    SameFindings actions (mode.meet answers x event).1 (mode.meet answers y event).1 := by
  obtain ⟨d, outer⟩ := x
  obtain ⟨e, outer'⟩ := y
  cases event with
  | text cs => exact h.write cs cs
  | fault p => exact h.report _
  | input r => exact h.take r
  | action a => exact ⟨h.seen, h.requirements, h.errors, fun ha => congrArg (· ++ [a]) (h.actions ha)⟩
  | enter => exact ⟨h.seen, h.requirements, h.errors, h.actions⟩
  | leave frame => cases outer <;> cases outer' <;> exact ⟨h.seen, h.requirements, h.errors, h.actions⟩

/-- What does not count changes nothing that counts. -/
theorem meet_of_not_counts (x : Desk) {event : Event} (hcounts : event.counts actions = false) :
    SameFindings actions (mode.meet answers x event).1 x.1 := by
  obtain ⟨d, outer⟩ := x
  cases event with
  | text | enter => exact ⟨rfl, rfl, rfl, fun _ => rfl⟩
  | leave frame => cases outer <;> exact ⟨rfl, rfl, rfl, fun _ => rfl⟩
  | action a =>
    have hactions : actions = false := hcounts
    exact ⟨rfl, rfl, rfl, fun ha => absurd (hactions.symm.trans ha) nofun⟩
  | fault | input => cases hcounts

theorem play_filter {x y : Desk} (h : SameFindings actions x.1 y.1) (events : List Event) :
    SameFindings actions (mode.play answers events x).1
      (mode.play answers (events.filter (Event.counts actions)) y).1 := by
  induction events generalizing x y with
  | nil => exact h
  | cons event events ih =>
    cases hcounts : event.counts actions with
    | false =>
      rw [List.filter_cons_of_neg (by simp [hcounts])]
      exact ih ((meet_of_not_counts x hcounts).trans h)
    | true =>
      rw [List.filter_cons_of_pos hcounts]
      exact ih (h.meet event)

theorem play {x y : Desk} (h : SameFindings actions x.1 y.1) {events events' : List Event}
    (hevents : events.filter (Event.counts actions) = events'.filter (Event.counts actions)) :
    SameFindings actions (mode.play answers events x).1 (mode.play answers events' y).1 := by
  have hfirst : SameFindings actions (mode.play answers events x).1
      (mode.play answers (events.filter (Event.counts actions)) y).1 := h.play_filter events
  have hsecond : SameFindings actions (mode.play answers events' y).1
      (mode.play answers (events'.filter (Event.counts actions)) y).1 := (refl y.1).play_filter events'
  exact hfirst.trans (hevents ▸ hsecond.symm)

end Draft.SameFindings

/-! ### Passes -/

variable {s s' : Surroundings} {tree : Node} {answers : Fields} {actions : Bool}

/-- A pass makes the same findings of traces with the same findings. -/
theorem run_sameFindings (h : (s.trace tree answers).SameFindings actions (s'.trace tree answers)) (mode : Mode) :
    Draft.SameFindings actions (Setting.run ⟨s, mode⟩ tree answers) (Setting.run ⟨s', mode⟩ tree answers) ∧
      (Setting.run ⟨s, mode⟩ tree answers).allErrors = (Setting.run ⟨s', mode⟩ tree answers).allErrors := by
  have hplay : Draft.SameFindings actions (mode.play answers (s.trace tree answers).events ({}, [])).1
      (mode.play answers (s'.trace tree answers).events ({}, [])).1 :=
    Draft.SameFindings.play (Draft.SameFindings.refl {}) h.events
  simp only [Setting.run_eq_play, Draft.allErrors, h.halted, hplay.errors]
  exact ⟨⟨hplay.seen, hplay.requirements, rfl, hplay.actions⟩, trivial⟩

theorem findings_eq (h : (s.trace tree answers).SameFindings actions (s'.trace tree answers)) :
    discover tree s.registry s.ctx answers = discover tree s'.registry s'.ctx answers ∧
      (render tree s.registry s.ctx answers).errors = (render tree s'.registry s'.ctx answers).errors ∧
      (actions = true →
        (render tree s.registry s.ctx answers).actions = (render tree s'.registry s'.ctx answers).actions) := by
  obtain ⟨hdiscovery, hfaults⟩ := run_sameFindings h .discovery
  obtain ⟨hfinal, herrors⟩ := run_sameFindings h .final
  refine ⟨?_, herrors, hfinal.actions⟩
  simp only [discover, Discovery.mk.injEq]
  exact ⟨hdiscovery.requirements, hfaults⟩

end PromptForm
