import PromptForm.Proofs.Trace.Playing

/-! # What a trace adds to a draft

A pass makes a draft of its trace (`Mode.gather`). What an event adds depends on the draft in one respect only: an
input whose name has been met before is a duplicate, and any other input adds the same to every draft
(`Mode.exists_take`). So a draft only grows (`Mode.play_errors`), and where no duplicate is reported no name stands
twice among the inputs (`Mode.nodup_of_play`). -/

namespace PromptForm

/-- What a pass makes of a trace. -/
def Mode.gather (mode : Mode) (answers : Fields) (t : Trace) : Draft :=
  { (mode.play answers t.events ({}, [])).1 with halted := t.halted }

theorem Setting.run_eq_gather (s : Setting) (tree : Node) (answers : Fields) :
    s.run tree answers = s.mode.gather answers (s.trace tree answers) :=
  s.run_eq_play tree answers

/-! ### Inputs -/

def Event.input? : Event → Option Requirement
  | .input r => some r
  | _ => none

/-- The inputs that a walk meets, in order. -/
def Trace.inputs (t : Trace) : List Requirement := t.events.filterMap Event.input?

theorem event_eq_input {event : Event} {r : Requirement} (h : event.input? = some r) : event = .input r := by
  cases event with
  | input q =>
    cases h
    rfl
  | _ => cases h

namespace Mode
variable {mode : Mode} {answers : Fields}

theorem take_of_met {r : Requirement} {d : Draft} (h : r.name ∈ d.seen) :
    mode.take answers r d = d.skip (.duplicateInput r.name) := by
  simp [take, h]

/-- Of the answers an input reads its own only. -/
theorem take_congr {others : Fields} {r : Requirement} (h : Fields.get? r.name others = Fields.get? r.name answers) (d : Draft) :
    mode.take others r d = mode.take answers r d := by
  have hanswer : Scope.answer? ⟨others, []⟩ r.name = Scope.answer? ⟨answers, []⟩ r.name := h
  simp only [take, answer, hanswer]

/-- What a new input adds is the same for every draft. -/
theorem exists_take (mode : Mode) (answers : Fields) (r : Requirement) :
    ∃ text rs es, (∀ e ∈ es, ∃ name, e = .missingInput name) ∧ ∀ d : Draft, r.name ∉ d.seen →
      mode.take answers r d = { d with
        text := d.text ++ text
        seen := r.name :: d.seen
        requirements := d.requirements ++ rs
        errors := d.errors ++ es } := by
  cases hv : Scope.answer? ⟨answers, []⟩ r.name with
  | some v => exact ⟨v.display.toList, [], [], nofun, fun d hd => by simp [take, hd, answer, hv, Draft.write]⟩
  | none =>
    cases mode with
    | discovery => exact ⟨[], [r], [], nofun, fun d hd => by simp [take, hd, answer, hv, Draft.write]⟩
    | final =>
      cases hdefault : r.default with
      | some v =>
        exact ⟨v.display.toList, [], [], nofun, fun d hd => by
          simp [take, hd, answer, hv, substitute, hdefault, Draft.write]⟩
      | none =>
        cases hrequired : r.required with
        | true =>
          refine ⟨[], [], [.missingInput r.name], fun e he => ⟨r.name, List.mem_singleton.mp he⟩, fun d hd => ?_⟩
          simp [take, hd, answer, hv, substitute, hdefault, hrequired, Draft.report, Draft.write]
        | false =>
          exact ⟨r.kind.emptyValue.display.toList, [], [], nofun, fun d hd => by
            simp [take, hd, answer, hv, substitute, hdefault, hrequired, Draft.write]⟩

theorem take_seen (r : Requirement) (d : Draft) : (mode.take answers r d).seen =
    if d.seen.contains r.name then d.seen else r.name :: d.seen := by
  obtain ⟨text, rs, es, -, hnew⟩ := mode.exists_take answers r
  by_cases hmet : r.name ∈ d.seen
  · rw [take_of_met hmet]
    simp [hmet, Draft.skip, Draft.report]
  · rw [hnew d hmet]
    simp [hmet]

theorem meet_seen {desk : Desk} {event : Event} (h : event.input? = none) :
    (mode.meet answers desk event).1.seen = desk.1.seen := by
  obtain ⟨d, outer⟩ := desk
  cases event with
  | input r => cases h
  | leave frame => cases outer <;> rfl
  | _ => rfl

/-- A name that has been met is that of an input. -/
theorem mem_play_seen {name : String} : ∀ (events : List Event) {desk : Desk},
    name ∈ (mode.play answers events desk).1.seen →
      name ∈ desk.1.seen ∨ name ∈ (events.filterMap Event.input?).map (·.name)
  | [], _, h => .inl h
  | event :: events, desk, h => by
    have hrest := mem_play_seen events h
    cases hinput : event.input? with
    | none =>
      rw [meet_seen hinput] at hrest
      rwa [List.filterMap_cons_none hinput]
    | some r =>
      cases event_eq_input hinput
      have hseen : (mode.meet answers desk (.input r)).1.seen = _ := take_seen r desk.1
      rw [hseen] at hrest
      rw [List.filterMap_cons_some hinput, List.map_cons, List.mem_cons]
      split at hrest
      · exact hrest.imp_right .inr
      · rcases hrest with hname | hname
        · exact (List.mem_cons.mp hname).elim (fun heq => .inr (.inl heq)) .inl
        · exact .inr (.inr hname)

/-! ### Errors -/

/-- Errors stay, and none that is added is fatal. -/
theorem meet_errors (mode : Mode) (answers : Fields) (desk : Desk) (event : Event) :
    ∃ es, (mode.meet answers desk event).1.errors = desk.1.errors ++ es ∧ ∀ e ∈ es, e.isFatal = false := by
  obtain ⟨d, outer⟩ := desk
  cases event with
  | fault e => exact ⟨[.props e], rfl, fun e he => by rw [List.mem_singleton.mp he]; rfl⟩
  | input r =>
    show ∃ es, (mode.take answers r d).errors = d.errors ++ es ∧ _
    obtain ⟨text, rs, es, hmissing, hnew⟩ := mode.exists_take answers r
    by_cases hmet : r.name ∈ d.seen
    · rw [take_of_met hmet]
      exact ⟨[.props (.duplicateInput r.name)], rfl, fun e he => by rw [List.mem_singleton.mp he]; rfl⟩
    · rw [hnew d hmet]
      refine ⟨es, rfl, fun e he => ?_⟩
      obtain ⟨name, rfl⟩ := hmissing e he
      rfl
  | leave frame => cases outer <;> exact ⟨[], (List.append_nil _).symm, nofun⟩
  | _ => exact ⟨[], (List.append_nil _).symm, nofun⟩

theorem play_errors (mode : Mode) (answers : Fields) : ∀ (events : List Event) (desk : Desk),
    ∃ es, (mode.play answers events desk).1.errors = desk.1.errors ++ es ∧ ∀ e ∈ es, e.isFatal = false
  | [], desk => ⟨[], (List.append_nil _).symm, nofun⟩
  | event :: events, desk => by
    obtain ⟨es, hfirst, hes⟩ := mode.meet_errors answers desk event
    obtain ⟨fs, hrest, hfs⟩ := mode.play_errors answers events (mode.meet answers desk event)
    refine ⟨es ++ fs, ?_, List.forall_mem_append.mpr ⟨hes, hfs⟩⟩
    show (mode.play answers events (mode.meet answers desk event)).1.errors = _
    rw [hrest, hfirst, List.append_assoc]

/-- Nothing that a pass gathers is fatal. -/
theorem gather_harmless (mode : Mode) (answers : Fields) (t : Trace) :
    ∀ e ∈ (mode.gather answers t).errors, e.isFatal = false := by
  obtain ⟨es, hplay, hes⟩ := mode.play_errors answers t.events ({}, [])
  have herrors : (mode.gather answers t).errors = es := hplay.trans (List.nil_append es)
  rwa [herrors]

/-- A pass reports something fatal just if the walk ends early. -/
theorem harmless_iff (mode : Mode) (answers : Fields) {t : Trace} :
    (∀ e ∈ (mode.gather answers t).allErrors, e.isFatal = false) ↔ t.halted = none := by
  show (∀ e ∈ (mode.gather answers t).errors ++ (t.halted.map RenderError.malformed).toList, e.isFatal = false) ↔ _
  rw [List.forall_mem_append]
  cases t.halted with
  | none => simpa using mode.gather_harmless answers t
  | some m => simp [RenderError.isFatal]

/-- If no duplicate is reported, no name stands twice. -/
theorem nodup_of_play : ∀ (events : List Event) (desk : Desk),
    (∀ name, .props (.duplicateInput name) ∉ (mode.play answers events desk).1.errors) →
      ((events.filterMap Event.input?).map (·.name)).Nodup ∧ ∀ r ∈ events.filterMap Event.input?, r.name ∉ desk.1.seen
  | [], _, _ => ⟨List.nodup_nil, nofun⟩
  | event :: events, desk, h => by
    obtain ⟨hnodup, hnew⟩ := nodup_of_play events (mode.meet answers desk event) h
    cases hinput : event.input? with
    | none =>
      rw [meet_seen hinput] at hnew
      rw [List.filterMap_cons_none hinput]
      exact ⟨hnodup, hnew⟩
    | some r =>
      cases event_eq_input hinput
      -- A name that was met before would be reported here, and what is reported stays.
      have hmet : r.name ∉ desk.1.seen := fun hmet => by
        obtain ⟨es, herrors, -⟩ := mode.play_errors answers events (mode.meet answers desk (.input r))
        have hreported : RenderError.props (.duplicateInput r.name) ∈ (mode.meet answers desk (.input r)).1.errors := by
          show _ ∈ (mode.take answers r desk.1).errors
          rw [take_of_met hmet]
          exact List.mem_append_right _ (List.mem_singleton_self _)
        refine h r.name ?_
        show _ ∈ (mode.play answers events (mode.meet answers desk (.input r))).1.errors
        rw [herrors]
        exact List.mem_append_left es hreported
      have hseen : (mode.meet answers desk (.input r)).1.seen = _ := take_seen r desk.1
      rw [hseen, if_neg (by simpa using hmet)] at hnew
      rw [List.filterMap_cons_some hinput, List.map_cons, List.nodup_cons]
      refine ⟨⟨fun hmem => ?_, hnodup⟩, List.forall_mem_cons.mpr ⟨hmet, fun q hq hmem => ?_⟩⟩
      · obtain ⟨q, hq, hname⟩ := List.mem_map.mp hmem
        exact hnew q hq (hname ▸ List.mem_cons_self)
      · exact hnew q hq (List.mem_cons_of_mem _ hmem)

end Mode
end PromptForm
