import PromptForm.Collection.Completion

/-! # Filling ends

Filling a collection takes finitely many steps: when only so many steps may be taken, the outcome is the same
as soon as they are enough (`Collection.fillWithin_of_le`). Collecting without questions so always comes back,
with answers or with a fatal error. -/

namespace PromptForm.Collection
variable {f : Form} {c c' : Collection}

/-- The next step to fill a collection, unless it is done. -/
def fillStep (f : Form) (c : Collection) : Option (Collection × Except RenderError Unit) :=
  match c.phase with
  | .notStarted => some (start f c)
  | .collecting => some (fillOne f c)
  | .done => none

/-- Takes so many steps at most; none if they are not enough. -/
def fillWithin (f : Form) : Nat → Collection → Option (Collection × Except RenderError Unit)
  | 0, _ => none
  | n + 1, c =>
    match fillStep f c with
    | none => some (c, .ok ())
    | some (c', .error e) => some (c', .error e)
    | some (c', .ok ()) => fillWithin f n c'

/-- What is left after a step with so many more, is left with one more before it. -/
theorem fillWithin_of_step {r : Collection × Except RenderError Unit} (h : fillStep f c = some (c', .ok ()))
    (hnext : ∃ n, ∀ m, n ≤ m → fillWithin f m c' = some r) : ∃ n, ∀ m, n ≤ m → fillWithin f m c = some r := by
  obtain ⟨n, hn⟩ := hnext
  refine ⟨n + 1, fun m hm => ?_⟩
  obtain ⟨k, rfl⟩ := Nat.exists_eq_add_of_le hm
  rw [Nat.add_right_comm, fillWithin, h]
  exact hn (n + k) (Nat.le_add_right n k)

/-- One step is enough where no other follows. -/
theorem fillWithin_of_last {r : Collection × Except RenderError Unit} (h : fillWithin f 1 c = some r)
    (hlast : ∀ c', fillStep f c ≠ some (c', .ok ())) : ∃ n, ∀ m, n ≤ m → fillWithin f m c = some r := by
  refine ⟨1, fun m hm => ?_⟩
  obtain ⟨k, rfl⟩ := Nat.exists_eq_add_of_le' hm
  rw [← h, fillWithin, fillWithin]
  split
  · rfl
  · rfl
  · rename_i c' hc'
    exact absurd hc' (hlast c')

theorem fillStep_of_open (hdone : c.isDone = false) (hc : c.phase ≠ .notStarted) :
    fillStep f c = some (fillOne f c) := by
  unfold fillStep
  cases hphase : c.phase with
  | notStarted => exact absurd hphase hc
  | collecting => rfl
  | done => simp [isDone, hphase] at hdone

/-- A discovery goes on with collecting, unless it is the last one. -/
theorem phase_of_rediscover (hc : c.phase = .collecting) (h : rediscover f c = (c', .ok ())) :
    c'.phase ≠ .notStarted := by
  obtain ⟨-, rfl⟩ := rediscover_eq_ok.mp h
  simp only [noting, hc]
  split <;> simp

theorem fillWithin_fillAll (f : Form) (c : Collection) (hc : c.phase ≠ .notStarted) :
    ∃ n, ∀ m, n ≤ m → fillWithin f m c = some (fillAll f c) := by
  induction c using fillAll_induction f with
  | done c hdone =>
    have hstep : fillStep f c = none := by
      have hphase : c.phase = .done := by simpa [isDone] using hdone
      rw [fillStep, hphase]
    exact fillWithin_of_last (by rw [fillWithin, hstep]) (by simp [hstep])
  | failed c c' e hdone hfill =>
    have hstep : fillStep f c = some (c', .error e) := by rw [fillStep_of_open hdone hc, hfill]
    exact fillWithin_of_last (by rw [fillWithin, hstep]) (by simp [hstep])
  | filled c c' r hdone hfill ih =>
    have hstep : fillStep f c = some (c', .ok ()) := by rw [fillStep_of_open hdone hc, hfill]
    obtain ⟨q, rest, hphase, -, hnext⟩ := fillOne_eq_ok.mp hfill
    have hstored : (c.store q.name q.fallback).phase = .collecting := hphase
    exact fillWithin_of_step hstep (ih (phase_of_rediscover hstored hnext))

/-- With enough steps, also a collection that may not have started is filled. -/
theorem fillWithin_fill (f : Form) (c : Collection) : ∃ n, ∀ m, n ≤ m → fillWithin f m c = some (fill f c) := by
  by_cases hc : c.phase = .notStarted
  · have hstep : fillStep f c = some (start f c) := by rw [fillStep, hc]
    match hstart : start f c with
    | (c', .error e) =>
      rw [hstart] at hstep
      rw [fill, if_pos hc, hstart]
      exact fillWithin_of_last (by rw [fillWithin, hstep]) (by simp [hstep])
    | (c', .ok ()) =>
      rw [hstart] at hstep
      rw [fill, if_pos hc, hstart]
      rw [start, if_pos hc] at hstart
      exact fillWithin_of_step hstep (fillWithin_fillAll f c' (phase_of_rediscover rfl hstart))
  · rw [fill, if_neg hc]
    exact fillWithin_fillAll f c hc

/-- Collecting ends, for every form. Whatever the answers, when the first open input is answered again and again
    then in the end none is open, though answers may open further inputs. And so filling the inputs comes back,
    with a result or a fatal error, from any state of a collection and with any answers to begin with. -/
theorem collecting_ends (f : Form) :
    (∀ (seed : Fields) (choose : Nat → Requirement → Value), ∃ k,
      (f.discover (f.answersAfter choose seed k)).requirements = [] ∨
        (f.discover (f.answersAfter choose seed k)).fatal?.isSome = true) ∧
    (∀ c : Collection, ∃ n, ∀ m, n ≤ m → fillWithin f m c = some (fill f c)) ∧
    (∀ seed : Fields, ∃ n, ∀ m, n ≤ m →
      (fillWithin f m (seeded seed)).map (fun (c, outcome) => outcome.map fun _ => c.answers) =
        some (withDefaults f seed)) := by
  refine ⟨fun seed choose => ?_, fillWithin_fill f, fun seed => ?_⟩
  · obtain ⟨k, hk⟩ := f.answersAfter_ends choose seed
    exact ⟨k, .inl hk⟩
  · obtain ⟨n, hn⟩ := fillWithin_fill f (seeded seed)
    exact ⟨n, fun m hm => by rw [hn m hm]; rfl⟩

end PromptForm.Collection
