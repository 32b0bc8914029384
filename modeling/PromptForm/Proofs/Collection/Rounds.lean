import PromptForm.Proofs.Settling.Trace

/-! # Collections end

Whatever the answers are, answering the first open input again and again leaves no open input in the end
(`Form.answersAfter_ends`). No count goes down on the way, as an answer may open further inputs. But answers are
kept, so what the form asks for settles, and it cannot settle on asking for an input that has just been
answered. Filling inputs is therefore well-founded (`Collection.filled_wellFounded`). -/

namespace PromptForm

namespace Form
variable (f : Form)

/-- The answers with one for the first open input. -/
def answerFirst (choose : Requirement → Value) (answers : Fields) : Fields :=
  match (f.discover answers).requirements with
  | [] => answers
  | r :: _ => Fields.insert r.name (choose r) answers

/-- The answers after so many rounds, in each of which the first open input is answered. -/
def answersAfter (choose : Nat → Requirement → Value) (seed : Fields) : Nat → Fields
  | 0 => seed
  | k + 1 => f.answerFirst (choose k) (answersAfter choose seed k)

variable {f}

/-- Answers are never replaced, as an open input has none. -/
theorem kept_answerFirst (choose : Requirement → Value) (answers : Fields) :
    Fields.Kept answers (f.answerFirst choose answers) := by
  unfold answerFirst
  split
  · exact Fields.Kept.refl answers
  · rename_i r rest hr
    exact Fields.Kept.insert ((f.discover_askable answers).unanswered r (hr ▸ List.mem_cons_self)) _

/-- A form asks for something else once the first input has an answer. -/
theorem discover_answerFirst_ne {choose : Requirement → Value} {answers : Fields}
    (h : (f.discover answers).requirements ≠ []) :
    f.discover (f.answerFirst choose answers) ≠ f.discover answers := by
  intro hsame
  obtain ⟨r, rest, hr⟩ := List.exists_cons_of_ne_nil h
  have hopen := (f.discover_askable (f.answerFirst choose answers)).unanswered r
    (by rw [hsame, hr]; exact List.mem_cons_self)
  simp only [answerFirst, hr, Fields.get?_insert, if_true] at hopen
  cases hopen

variable (f)

/-- Rounds of answers come to an end, whatever is answered. -/
theorem answersAfter_ends (choose : Nat → Requirement → Value) (seed : Fields) :
    ∃ k, (f.discover (f.answersAfter choose seed k)).requirements = [] := by
  have hkept : ∀ n, Settles fun k => Fields.get? n (f.answersAfter choose seed k) := fun n =>
    Settles.of_kept fun k v => kept_answerFirst (choose k) _ n v
  obtain ⟨k, hk⟩ := f.discover_settles hkept
  refine ⟨k, Classical.byContradiction fun h => ?_⟩
  have hsame : f.discover (f.answersAfter choose seed (k + 1)) = f.discover (f.answersAfter choose seed k) :=
    hk (k + 1) (Nat.le_succ k)
  exact discover_answerFirst_ne h hsame

/-- The first round may be counted apart. -/
theorem answersAfter_succ (choose : Nat → Requirement → Value) (seed : Fields) : ∀ k,
    f.answersAfter choose seed (k + 1) = f.answersAfter (fun i => choose (i + 1)) (f.answerFirst (choose 0) seed) k
  | 0 => rfl
  | k + 1 => by rw [answersAfter, answersAfter_succ choose seed k, answersAfter]

end Form

/-! ### Filling -/

namespace Collection
variable {f : Form} {c c' : Collection}

/-- Filling an input answers the front of the queue and discovers again. -/
theorem fillOne_eq_ok : fillOne f c = (c', .ok ()) ↔ ∃ r rest, c.phase = .collecting ∧ c.queue = r :: rest ∧
    rediscover f (c.store r.name r.fallback) = (c', .ok ()) := by
  unfold fillOne
  split
  · rename_i e he
    refine ⟨nofun, fun ⟨r, rest, hphase, hqueue, _⟩ => ?_⟩
    rw [current_eq_ok.mpr ⟨hphase, rest, hqueue⟩] at he
    cases he
  · rename_i r hr
    obtain ⟨hphase, rest, hqueue⟩ := current_eq_ok.mp hr
    have hrunning : (c.store r.name r.fallback).running = .ok () := running_eq_ok.mpr hphase
    simp only [advance, hrunning]
    constructor
    · exact fun h => ⟨r, rest, hphase, hqueue, h⟩
    · rintro ⟨q, _, -, hq, h⟩
      rw [hqueue] at hq
      cases hq
      exact h

/-- After an input has been filled the queue is what a discovery finds. -/
theorem fillOne_ok (h : fillOne f c = (c', .ok ())) : ∃ r rest, c.queue = r :: rest ∧
    c'.answers = Fields.insert r.name r.fallback c.answers ∧ c'.queue = (f.discover c'.answers).requirements := by
  obtain ⟨r, rest, -, hqueue, hnext⟩ := fillOne_eq_ok.mp h
  obtain ⟨-, rfl⟩ := rediscover_eq_ok.mp hnext
  exact ⟨r, rest, hqueue, rfl, rfl⟩

variable (f) in
/-- Only so many more inputs can be filled as rounds are needed to leave none open. -/
theorem acc_of_answersAfter (k : Nat) : ∀ c : Collection, c.queue = (f.discover c.answers).requirements →
    (f.discover (f.answersAfter (fun _ => Requirement.fallback) c.answers k)).requirements = [] →
    Acc (fun c' c => fillOne f c = (c', .ok ())) c := by
  induction k with
  | zero =>
    intro c hqueue hend
    refine ⟨_, fun c' h => ?_⟩
    obtain ⟨r, rest, hr, -⟩ := fillOne_ok h
    rw [hqueue] at hr
    rw [Form.answersAfter, hr] at hend
    cases hend
  | succ k ih =>
    intro c hqueue hend
    refine ⟨_, fun c' h => ?_⟩
    obtain ⟨r, rest, hr, ha, hqueue'⟩ := fillOne_ok h
    have hfirst : f.answerFirst Requirement.fallback c.answers = c'.answers := by
      rw [ha, Form.answerFirst, ← hqueue, hr]
    rw [Form.answersAfter_succ, hfirst] at hend
    exact ih c' hqueue' hend

/-- Inputs of a collection can be filled one after the other only finitely often. -/
theorem filled_wellFounded (f : Form) : WellFounded fun c' c => fillOne f c = (c', .ok ()) := by
  refine ⟨fun c => ⟨_, fun c' h => ?_⟩⟩
  -- The queue of a collection may be stale; after one step it is what a discovery finds.
  obtain ⟨r, rest, -, -, hqueue⟩ := fillOne_ok h
  obtain ⟨k, hk⟩ := f.answersAfter_ends (fun _ => Requirement.fallback) c'.answers
  exact acc_of_answersAfter f k c' hqueue hk

end Collection
end PromptForm
