import PromptForm.Proofs.Collection.Invariant
import PromptForm.Proofs.Pass.Modes

/-! # Done means complete

A collection that is done can be rendered: no input is missing, and the errors of the rendering are those that
the last discovery left (`Collection.done_renders`). In particular the answers that filling comes back with are
complete. -/

namespace PromptForm

/-- When a discovery finds no open input, a rendering has its errors. -/
theorem Form.render_errors_of_closed {f : Form} {answers : Fields} (h : (f.discover answers).requirements = []) :
    (f.render answers).errors = (f.discover answers).errors := by
  refine f.render_errors_of_not_missing answers ?_
  rw [f.render_missing, h]
  rfl

/-- No discovery says that an input is missing. -/
theorem Form.discover_missing? {f : Form} {answers : Fields} {e : RenderError} (he : e ∈ (f.discover answers).errors) :
    e.missing? = none := by
  rw [← f.render_errors_filter] at he
  exact Option.isNone_iff_eq_none.mp (List.mem_filter.mp he).2

/-- What a discovery without a fatal error reports spoils single elements. -/
theorem Form.discover_props {f : Form} {answers : Fields} (hfatal : (f.discover answers).fatal? = none)
    {e : RenderError} (he : e ∈ (f.discover answers).errors) : ∃ p, e = .props p := by
  have hharmless : e.isFatal = false := by simpa using List.find?_eq_none.mp hfatal e he
  have hmissing := f.discover_missing? he
  cases e with
  | props p => exact ⟨p, rfl⟩
  | malformed => cases hharmless
  | protocol => cases hharmless
  | missingInput => cases hmissing

namespace Complete
variable {f : Form} {c : Collection}

theorem render_errors (hc : Complete f c) : (f.render c.answers).errors = c.errors :=
  (Form.render_errors_of_closed hc.requirements).trans hc.errors.symm

theorem render_props (hc : Complete f c) : ∀ e ∈ (f.render c.answers).errors, ∃ p, e = .props p := by
  rw [Form.render_errors_of_closed hc.requirements]
  exact fun e he => Form.discover_props hc.fatal? he

end Complete

namespace Collection
variable {f : Form} {seed answers : Fields} {c : Collection}

theorem isDone_of_fillAll (f : Form) (c : Collection) (h : (fillAll f c).2 = .ok ()) :
    (fillAll f c).1.isDone = true := by
  induction c using fillAll_induction f with
  | done c hdone => exact hdone
  | failed => cases h
  | filled c c' r hdone hfill ih => exact ih h

/-- A collection has been filled when it is done. -/
theorem isDone_of_fill (h : (fill f c).2 = .ok ()) : (fill f c).1.isDone = true := by
  unfold fill at h ⊢
  split at h
  · rename_i hphase
    rw [if_pos hphase]
    split at h
    · cases h
    · exact isDone_of_fillAll f _ h
  · rename_i hphase
    rw [if_neg hphase]
    exact isDone_of_fillAll f c h

theorem withDefaults_ok (h : withDefaults f seed = .ok answers) :
    ∃ c, fill f (seeded seed) = (c, .ok ()) ∧ c.answers = answers := by
  unfold withDefaults at h
  match hfill : fill f (seeded seed) with
  | (c, .error e) =>
    rw [hfill] at h
    cases h
  | (c, .ok ()) =>
    rw [hfill] at h
    cases h
    exact ⟨c, rfl, rfl⟩

/-- A collection that is done is complete, whatever was called on it before: with its answers no input is open or
    missing, no error is fatal, and a rendering has the errors of the collection. So the answers that filling
    comes back with keep the answers that were supplied, and rendering with them reports just the spoilt elements
    that the last discovery reported. -/
theorem done_renders (f : Form) (seed : Fields) :
    (∀ calls, (after f seed calls).isDone = true →
      (f.discover (after f seed calls).answers).requirements = [] ∧
      (f.discover (after f seed calls).answers).fatal? = none ∧
      (∀ name, .missingInput name ∉ (f.render (after f seed calls).answers).errors) ∧
      (f.render (after f seed calls).answers).errors = (after f seed calls).errors) ∧
    (∀ answers, withDefaults f seed = .ok answers →
      Fields.Kept seed answers ∧
      (f.render answers).errors = (f.discover answers).errors ∧
      (f.render answers).errors = (fill f (seeded seed)).1.errors ∧
      ∀ e ∈ (f.render answers).errors, ∃ p, e = .props p) := by
  have hdone : ∀ calls, (after f seed calls).isDone = true → Complete f (after f seed calls) := fun calls h =>
    (Sound.after f seed calls).complete (by simpa [isDone] using h)
  constructor
  · intro calls h
    have hc := hdone calls h
    refine ⟨hc.requirements, hc.fatal?, fun name hname => ?_, hc.render_errors⟩
    obtain ⟨p, hp⟩ := hc.render_props _ hname
    cases hp
  · intro answers h
    obtain ⟨c, hfill, rfl⟩ := withDefaults_ok h
    have hend : (fill f (seeded seed)).1.isDone = true := isDone_of_fill (by rw [hfill])
    have hc : Complete f (fill f (seeded seed)).1 := hdone [.fill] hend
    have hkept : Fields.Kept seed (fill f (seeded seed)).1.answers := (Sound.after f seed [.fill]).kept
    rw [hfill] at hc hkept ⊢
    exact ⟨hkept, hc.render_errors.trans hc.errors, hc.render_errors, hc.render_props⟩

/-- The only input of a form is answered, and it takes its empty value where nothing is supplied. -/
theorem done_renders_topic :
    (topicForm.render (after topicForm [] [.start, .submit (.string "bees"), .advance]).answers).errors = [] ∧
    withDefaults topicForm [] = .ok [("topic", .string "")] ∧
    (topicForm.render [("topic", .string "")]).errors = (topicForm.discover [("topic", .string "")]).errors := by
  obtain ⟨hdone, hfilled⟩ := done_renders topicForm []
  have hanswers : withDefaults topicForm [] = .ok [("topic", .string "")] := by
    have hfill : fillOne topicForm (after topicForm [] [.start]) =
        ((fillOne topicForm (after topicForm [] [.start])).1, .ok ()) := rfl
    have hall : fillAll topicForm (after topicForm [] [.start]) =
        ((fillOne topicForm (after topicForm [] [.start])).1, .ok ()) := by
      rw [fillAll_of_ok rfl hfill, fillAll_of_isDone rfl]
    have hstart : fill topicForm (seeded []) = fillAll topicForm (after topicForm [] [.start]) := rfl
    rw [withDefaults, hstart, hall]
    rfl
  refine ⟨?_, hanswers, (hfilled _ hanswers).2.1⟩
  obtain ⟨-, -, -, herrors⟩ := hdone [.start, .submit (.string "bees"), .advance] rfl
  exact herrors.trans rfl

end Collection
end PromptForm
