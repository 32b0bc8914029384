import Mathlib.Logic.Relation
import PromptForm.Collection.Completion

/-! # What happens to a collection

Whatever is called on a collection, and whether it succeeds or fails, only three things happen to it, one after
the other (`Move`): it begins, it notes a discovery, or the input at the front of its queue gets an answer. What
these three keep, every call keeps (`Collection.moves_perform`). -/

namespace PromptForm

/-- What happens to a collection at a time. -/
inductive Move (f : Form) : Collection → Collection → Prop where
  | begin {c} (h : c.phase = .notStarted) : Move f c { c with phase := .collecting }
  /-- A discovery that no fatal error ended. -/
  | note {c} (h : c.phase = .collecting) (hfatal : (f.discover c.answers).fatal? = none) :
      Move f c (c.noting (f.discover c.answers))
  | store {c r rest} (h : c.phase = .collecting) (hqueue : c.queue = r :: rest) (v : Value) :
      Move f c (c.store r.name v)

abbrev Moves (f : Form) : Collection → Collection → Prop := Relation.ReflTransGen (Move f)

namespace Collection
variable {f : Form} {c : Collection}

theorem moves_rediscover (h : c.phase = .collecting) : Moves f c (rediscover f c).1 := by
  unfold rediscover
  dsimp only
  split
  · exact .refl
  · rename_i hfatal
    exact .single (.note h hfatal)

theorem moves_start : Moves f c (start f c).1 := by
  unfold start
  split
  · rename_i h
    exact .head (.begin h) (moves_rediscover rfl)
  · exact .refl

theorem moves_submit (answer : Value) : Moves f c (c.submit answer).1 := by
  unfold submit
  split
  · exact .refl
  · rename_i r hr
    obtain ⟨h, rest, hqueue⟩ := current_eq_ok.mp hr
    split
    · exact .single (.store h hqueue _)
    · exact .refl

theorem moves_advance : Moves f c (advance f c).1 := by
  unfold advance
  split
  · exact .refl
  · rename_i h
    exact moves_rediscover (running_eq_ok.mp h)

theorem moves_fillOne : Moves f c (fillOne f c).1 := by
  unfold fillOne
  split
  · exact .refl
  · rename_i r hr
    obtain ⟨h, rest, hqueue⟩ := current_eq_ok.mp hr
    exact .head (.store h hqueue _) moves_advance

theorem moves_fillAll (f : Form) (c : Collection) : Moves f c (fillAll f c).1 := by
  induction c using fillAll_induction f with
  | done c => exact .refl
  | failed c c' e hdone hfill =>
    have hone : Moves f c (fillOne f c).1 := moves_fillOne
    rwa [hfill] at hone
  | filled c c' r hdone hfill ih =>
    have hone : Moves f c (fillOne f c).1 := moves_fillOne
    rw [hfill] at hone
    exact hone.trans ih

theorem moves_fill : Moves f c (fill f c).1 := by
  have hstart : Moves f c (start f c).1 := moves_start
  unfold fill
  split
  · split
    · rename_i hs
      rwa [hs] at hstart
    · rename_i hs
      rw [hs] at hstart
      exact hstart.trans (moves_fillAll f _)
  · exact moves_fillAll f c

/-! ### Calls -/

/-- What can be asked of a collection. -/
inductive Call where
  | start
  | submit (answer : Value)
  | advance
  | fill

/-- What a call leaves, whether it succeeds or fails. -/
def perform (f : Form) (c : Collection) : Call → Collection
  | .start => (start f c).1
  | .submit answer => (c.submit answer).1
  | .advance => (advance f c).1
  | .fill => (fill f c).1

/-- What some calls leave of a collection that has the seed as its answers. -/
def after (f : Form) (seed : Fields) (calls : List Call) : Collection := calls.foldl (perform f) (seeded seed)

theorem moves_perform (call : Call) : Moves f c (perform f c call) := by
  cases call with
  | start => exact moves_start
  | submit answer => exact moves_submit answer
  | advance => exact moves_advance
  | fill => exact moves_fill

theorem moves_foldl (calls : List Call) (c : Collection) : Moves f c (calls.foldl (perform f) c) := by
  induction calls generalizing c with
  | nil => exact .refl
  | cons call calls ih => exact (moves_perform call).trans (ih _)

/-- Later states come from earlier ones. -/
theorem moves_after_append (f : Form) (seed : Fields) (calls more : List Call) :
    Moves f (after f seed calls) (after f seed (calls ++ more)) := by
  rw [after, after, List.foldl_append]
  exact moves_foldl more _

end Collection
end PromptForm
