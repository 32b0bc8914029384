import PromptForm.Proofs.Collection.Invariant

/-! # What a failed call leaves

A call that fails leaves a collection as it was, with one exception. A start changes the phase before it discovers
anything, and a fatal error of the discovery does not change it back. What is left counts as started, but nothing
was discovered for it, and no call gets it any further (`Stuck`). -/

namespace PromptForm.Collection
variable {f : Form} {seed : Fields} {c c' : Collection} {e : RenderError}

/-! ### Single calls -/

theorem rediscover_eq_error : rediscover f c = (c', .error e) ↔ (f.discover c.answers).fatal? = some e ∧ c' = c := by
  cases h : (f.discover c.answers).fatal? with
  | none => simp [rediscover, h]
  | some e' =>
    simp only [rediscover, h, Prod.mk.injEq, Except.error.injEq, Option.some.injEq]
    constructor
    · rintro ⟨rfl, rfl⟩
      exact ⟨rfl, rfl⟩
    · rintro ⟨rfl, rfl⟩
      exact ⟨rfl, rfl⟩

theorem advance_failed (h : advance f c = (c', .error e)) : c' = c := by
  unfold advance at h
  split at h
  · cases h
    rfl
  · exact (rediscover_eq_error.mp h).2

theorem submit_refused {answer : Value} {outcome : Except ProtocolError Submission}
    (h : c.submit answer = (c', outcome)) (hrefused : outcome ≠ .ok .accepted) : c' = c := by
  unfold submit at h
  split at h
  · cases h
    rfl
  · split at h
    · cases h
      exact absurd rfl hrefused
    · cases h
      rfl

/-- A start fails because it is not the first, or because a fatal error ends the discovery. -/
theorem start_failed (h : start f c = (c', .error e)) :
    (c.phase ≠ .notStarted ∧ e = .protocol .alreadyStarted ∧ c' = c) ∨
      (c.phase = .notStarted ∧ (f.discover c.answers).fatal? = some e ∧ c' = { c with phase := .collecting }) := by
  unfold start at h
  split at h
  · rename_i hphase
    obtain ⟨hfatal, hsame⟩ := rediscover_eq_error.mp h
    exact .inr ⟨hphase, hfatal, hsame⟩
  · rename_i hphase
    cases h
    exact .inl ⟨hphase, rfl, rfl⟩

theorem start_eq_error (hphase : c.phase = .notStarted) (hfatal : (f.discover c.answers).fatal? = some e) :
    start f c = ({ c with phase := .collecting }, .error e) := by
  rw [start, if_pos hphase]
  exact rediscover_eq_error.mpr ⟨hfatal, rfl⟩

/-! ### After a start that a fatal error ended -/

/-- A collection that counts as started and has nothing to ask, as a fatal error keeps it from any discovery. -/
structure Stuck (f : Form) (c : Collection) : Prop where
  phase : c.phase = .collecting
  queue : c.queue = []
  fatal? : (f.discover c.answers).fatal? ≠ none

namespace Stuck

theorem current (h : Stuck f c) : c.current = .error .pendingAdvance := by
  unfold Collection.current running
  rw [h.phase, h.queue]
  rfl

theorem rediscover (h : Stuck f c) : (rediscover f c).1 = c := by
  obtain ⟨e, he⟩ := Option.ne_none_iff_exists'.mp h.fatal?
  rw [rediscover_eq_error.mpr ⟨he, rfl⟩]

theorem fillAll (h : Stuck f c) : (fillAll f c).1 = c := by
  have hopen : c.isDone = false := by simp [isDone, h.phase]
  have hfill : fillOne f c = (c, .error (.protocol .pendingAdvance)) := by rw [fillOne, h.current]
  rw [fillAll_of_error hopen hfill]

/-- Whatever is asked of it, a collection that is stuck stays as it is. -/
theorem perform (h : Stuck f c) (call : Call) : perform f c call = c := by
  have hphase : c.phase ≠ .notStarted := by simp [h.phase]
  cases call with
  | start => rw [Collection.perform, start, if_neg hphase]
  | submit answer => rw [Collection.perform, submit, h.current]
  | advance =>
    rw [Collection.perform, advance, running_eq_ok.mpr h.phase]
    exact h.rediscover
  | fill =>
    rw [Collection.perform, fill, if_neg hphase]
    exact h.fillAll

theorem foldl (h : Stuck f c) (calls : List Call) : calls.foldl (Collection.perform f) c = c := by
  induction calls with
  | nil => rfl
  | cons call calls ih => rw [List.foldl_cons, h.perform, ih]

end Stuck

/-! ### States that calls lead to -/

theorem Move.phase_ne_notStarted (hm : Move f c c') : c'.phase ≠ .notStarted := by
  cases hm with
  | begin => simp
  | note h =>
    simp only [noting, h]
    split <;> simp
  | store h => simp [store, h]

/-- A collection that has not started is as it was made. -/
theorem after_of_notStarted {calls : List Call} (h : (after f seed calls).phase = .notStarted) :
    after f seed calls = seeded seed := by
  have hmoves : Moves f (seeded seed) (after f seed calls) := moves_after_append f seed [] calls
  rcases hmoves.cases_tail with heq | ⟨d, -, hlast⟩
  · exact heq
  · exact absurd h (Move.phase_ne_notStarted hlast)

/-- In every state that calls lead to, an advance that fails and an answer that is not accepted leave the collection
    as it is, and so does a start that is not the first. A first start that fails leaves the answers, the queue and
    the errors as they are, but the collection then counts as started, and no call ever changes it again. -/
theorem failed_call_leaves (f : Form) (seed : Fields) (calls : List Call) :
    let c := after f seed calls
    (∀ e, (advance f c).2 = .error e → (advance f c).1 = c) ∧
    (∀ answer, (c.submit answer).2 ≠ .ok .accepted → (c.submit answer).1 = c) ∧
    (∀ e, (start f c).2 = .error e →
      (e = .protocol .alreadyStarted ∧ (start f c).1 = c) ∨
      (c = seeded seed ∧ (f.discover seed).fatal? = some e ∧ (start f c).1 = { c with phase := .collecting } ∧
        ∀ more, after f seed (calls ++ .start :: more) = { c with phase := .collecting })) := by
  intro c
  refine ⟨fun e h => advance_failed (Prod.ext rfl h), fun answer h => submit_refused rfl h, fun e h => ?_⟩
  have hstart : start f c = ((start f c).1, .error e) := Prod.ext rfl h
  rcases start_failed hstart with ⟨-, he, hsame⟩ | ⟨hphase, hfatal, hleft⟩
  · exact .inl ⟨he, hsame⟩
  · have hc : c = seeded seed := after_of_notStarted hphase
    have hanswers : c.answers = seed := by rw [hc]; rfl
    -- The fault lies in the form and the seed, which no later call changes.
    have hstuck : Stuck f { c with phase := .collecting } := by
      refine ⟨rfl, ?_, ?_⟩
      · rw [hc]
        rfl
      · rw [hfatal]
        simp
    refine .inr ⟨hc, hanswers ▸ hfatal, hleft, fun more => ?_⟩
    have hrun : after f seed (calls ++ .start :: more) = more.foldl (perform f) (start f c).1 := by
      rw [after, List.foldl_append]
      rfl
    rw [hrun, hleft, hstuck.foldl]

/-- A form whose only condition is malformed. -/
def brokenForm : Form := ⟨.element "If" [("when", .string "=OR(")] [], topicForm.registry, topicForm.ctx⟩

theorem start_brokenForm : ∃ e, start brokenForm (seeded []) = ({ seeded [] with phase := .collecting }, .error e) := by
  have hfatal : (brokenForm.discover []).fatal?.isSome = true := by decide +kernel
  obtain ⟨e, he⟩ := Option.isSome_iff_exists.mp hfatal
  exact ⟨e, start_eq_error rfl he⟩

/-- Its start fails, and from then on nothing changes. -/
theorem failed_call_leaves_broken : (advance brokenForm (seeded [])).1 = seeded [] ∧
    ((seeded []).submit (.string "bees")).1 = seeded [] ∧
    ∀ more, after brokenForm [] (.start :: more) = { seeded [] with phase := .collecting } := by
  obtain ⟨hadvance, hsubmit, hstart⟩ := failed_call_leaves brokenForm [] []
  have hrefused : ((seeded []).submit (.string "bees")).2 = .error .notStarted := rfl
  obtain ⟨e, hfailed⟩ := start_brokenForm
  refine ⟨hadvance _ rfl, hsubmit _ (by rw [show after brokenForm [] [] = seeded [] from rfl, hrefused]; simp), ?_⟩
  rcases hstart e (congrArg Prod.snd hfailed) with ⟨-, hsame⟩ | ⟨-, -, -, hmore⟩
  · cases congrArg phase ((congrArg Prod.fst hfailed).symm.trans hsame)
  · exact hmore

/-- It is not so that every call that fails leaves the collection as it was. -/
theorem failed_start_begins : ¬∀ (f : Form) (seed : Fields) (calls : List Call) (e : RenderError),
    (start f (after f seed calls)).2 = .error e → (start f (after f seed calls)).1 = after f seed calls := by
  intro h
  obtain ⟨e, hfailed⟩ := start_brokenForm
  have hsame := h brokenForm [] [] e (congrArg Prod.snd hfailed)
  cases congrArg phase ((congrArg Prod.fst hfailed).symm.trans hsame)

end PromptForm.Collection
