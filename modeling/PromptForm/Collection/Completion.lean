import PromptForm.Proofs.Collection.Rounds

/-!
# Collecting without questions

Each open input takes its default or empty value in turn, and every value is followed by a new round. That
this ends is shown in `filled_wellFounded`.
-/

namespace PromptForm.Collection

/-- Fills inputs until the collection is done or a fatal error stops it. -/
def fillAll (f : Form) (c : Collection) : Collection × Except RenderError Unit :=
  if c.isDone then (c, .ok ())
  else
    match _h : fillOne f c with
    | (c', .error e) => (c', .error e)
    | (c', .ok ()) => fillAll f c'
termination_by (filled_wellFounded f).wrap c
decreasing_by assumption

theorem fillAll_of_isDone {f : Form} {c : Collection} (h : c.isDone = true) : fillAll f c = (c, .ok ()) := by
  rw [fillAll, if_pos h]

theorem fillAll_of_error {f : Form} {c c' : Collection} {e : RenderError} (hc : c.isDone = false)
    (h : fillOne f c = (c', .error e)) : fillAll f c = (c', .error e) := by
  rw [fillAll, if_neg (by simp [hc])]
  split <;> simp_all

theorem fillAll_of_ok {f : Form} {c c' : Collection} (hc : c.isDone = false) (h : fillOne f c = (c', .ok ())) :
    fillAll f c = fillAll f c' := by
  rw [fillAll, if_neg (by simp [hc])]
  split <;> simp_all

/-- What holds where filling comes to its end, and carries over from a filled input to the one before it, holds of
    every collection and what filling makes of it. -/
theorem fillAll_induction (f : Form) {motive : Collection → Collection × Except RenderError Unit → Prop}
    (done : ∀ c, c.isDone = true → motive c (c, .ok ()))
    (failed : ∀ c c' e, c.isDone = false → fillOne f c = (c', .error e) → motive c (c', .error e))
    (filled : ∀ c c' r, c.isDone = false → fillOne f c = (c', .ok ()) → motive c' r → motive c r) (c : Collection) :
    motive c (fillAll f c) := by
  induction c using (filled_wellFounded f).induction with
  | _ c ih =>
    cases hdone : c.isDone with
    | true =>
      rw [fillAll_of_isDone hdone]
      exact done c hdone
    | false =>
      match hfill : fillOne f c with
      | (c', .error e) =>
        rw [fillAll_of_error hdone hfill]
        exact failed c c' e hdone hfill
      | (c', .ok ()) =>
        rw [fillAll_of_ok hdone hfill]
        exact filled c c' _ hdone hfill (ih c' hfill)

/-- Fills all inputs of a collection that may not have started yet. -/
def fill (f : Form) (c : Collection) : Collection × Except RenderError Unit :=
  if c.phase = .notStarted then
    match start f c with
    | (c, .error e) => (c, .error e)
    | (c, .ok ()) => fillAll f c
  else fillAll f c

/-- The answers of a form whose open inputs take their defaults or empty values. -/
def withDefaults (f : Form) (seed : Fields) : Except RenderError Fields :=
  let (c, outcome) := fill f (seeded seed)
  outcome.map fun _ => c.answers

end PromptForm.Collection
