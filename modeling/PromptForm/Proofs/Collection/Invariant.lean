import PromptForm.Proofs.Collection.Moves

/-! # The invariant of a collection

In every state that a collection comes to, the inputs in its queue can be asked for, answers are only ever added,
and a collection that is done has asked for everything (`Sound`). The queue may be stale, as answers can open
and close branches without a new discovery; still each input in it has no answer, because the answers given since
then went to inputs that were before it in the queue. -/

namespace PromptForm

/-- The last discovery of a collection was made with its present answers and left nothing open. -/
structure Complete (f : Form) (c : Collection) : Prop where
  queue : c.queue = []
  requirements : (f.discover c.answers).requirements = []
  fatal? : (f.discover c.answers).fatal? = none
  errors : c.errors = (f.discover c.answers).errors

structure Sound (f : Form) (seed : Fields) (c : Collection) : Prop where
  askable : Askable c.answers c.queue
  unstarted : c.phase = .notStarted → c.queue = [] ∧ c.answers = seed
  complete : c.phase = .done → Complete f c
  kept : Fields.Kept seed c.answers

variable {f : Form} {seed : Fields} {c c' : Collection}

/-! ### One step -/

namespace Move

/-- A collection that is done stays as it is. -/
theorem phase_ne_done (hm : Move f c c') : c.phase ≠ .done := by
  cases hm with
  | begin h => simp [h]
  | note h => simp [h]
  | store h => simp [h]

theorem kept (hc : Sound f seed c) (hm : Move f c c') : Fields.Kept c.answers c'.answers := by
  cases hm with
  | begin => exact Fields.Kept.refl _
  | note => exact Fields.Kept.refl _
  | store _ hqueue v =>
    exact Fields.Kept.insert (hc.askable.unanswered _ (hqueue ▸ List.mem_cons_self)) v

end Move

namespace Sound

theorem seeded (f : Form) (seed : Fields) : Sound f seed (Collection.seeded seed) where
  askable := Askable.nil
  unstarted _ := ⟨rfl, rfl⟩
  complete h := nomatch h
  kept := Fields.Kept.refl seed

theorem begin (hc : Sound f seed c) : Sound f seed { c with phase := .collecting } where
  askable := hc.askable
  unstarted h := nomatch h
  complete h := nomatch h
  kept := hc.kept

theorem note (hc : Sound f seed c) (h : c.phase = .collecting) (hfatal : (f.discover c.answers).fatal? = none) :
    Sound f seed (c.noting (f.discover c.answers)) where
  askable := f.discover_askable c.answers
  unstarted hphase := by
    simp only [Collection.noting, h] at hphase
    split at hphase <;> cases hphase
  complete hphase := by
    have hnone : (f.discover c.answers).requirements = [] := by
      simp only [Collection.noting, h] at hphase
      split at hphase
      · rename_i hempty
        exact List.isEmpty_iff.mp hempty
      · cases hphase
    exact ⟨hnone, hnone, hfatal, rfl⟩
  kept := hc.kept

theorem store {r : Requirement} {rest : List Requirement} (hc : Sound f seed c) (h : c.phase = .collecting)
    (hqueue : c.queue = r :: rest) (v : Value) : Sound f seed (c.store r.name v) where
  askable := by
    have hasked := hc.askable
    simp only [Collection.store, hqueue, List.tail_cons] at hasked ⊢
    exact hasked.answered v
  unstarted hphase := by
    rw [Collection.store, h] at hphase
    cases hphase
  complete hphase := by
    rw [Collection.store, h] at hphase
    cases hphase
  kept := hc.kept.trans (Move.kept hc (.store h hqueue v))

theorem move (hc : Sound f seed c) (hm : Move f c c') : Sound f seed c' := by
  cases hm with
  | begin => exact hc.begin
  | note h hfatal => exact hc.note h hfatal
  | store h hqueue v => exact hc.store h hqueue v

/-! ### Runs -/

theorem moves (hc : Sound f seed c) (hm : Moves f c c') : Sound f seed c' ∧ Fields.Kept c.answers c'.answers := by
  induction hm with
  | refl => exact ⟨hc, Fields.Kept.refl _⟩
  | tail _ hm ih => exact ⟨ih.1.move hm, ih.2.trans (Move.kept ih.1 hm)⟩

theorem after (f : Form) (seed : Fields) (calls : List Collection.Call) :
    Sound f seed (Collection.after f seed calls) :=
  ((Sound.seeded f seed).moves (Collection.moves_after_append f seed [] calls)).1

end Sound

theorem Moves.eq_of_done (hm : Moves f c c') (h : c.phase = .done) : c' = c := by
  rcases hm.cases_head with heq | ⟨d, hfirst, -⟩
  · exact heq.symm
  · exact absurd h hfirst.phase_ne_done

/-! ### Answers -/

namespace Collection

/-- An accepted answer is stored for the current input. -/
theorem submit_accepted {answer : Value} (h : c.submit answer = (c', .ok .accepted)) :
    ∃ r v, c.current = .ok r ∧ r.validate answer = .ok v ∧ c' = c.store r.name v := by
  unfold submit at h
  split at h
  · cases h
  · rename_i r hr
    split at h
    · rename_i v hv
      cases h
      exact ⟨r, v, hr, hv, rfl⟩
    · cases h

/-- In every state that calls lead to, whatever became of them: the inputs in the queue have names of their own,
    each an identifier without an answer; before the start nothing is queued and the answers are the seed; a
    collection that is done has an empty queue and never changes again; answers are never replaced or taken
    away; and an accepted answer adds the name of the current input alone, and takes this input alone from the
    front of the queue. -/
theorem after_invariant (f : Form) (seed : Fields) (calls : List Call) :
    let c := after f seed calls
    (c.queue.map (·.name)).Nodup ∧
    (∀ r ∈ c.queue, Text.isIdentifier r.name = true ∧ Fields.get? r.name c.answers = none) ∧
    (c.phase = .notStarted → c.queue = [] ∧ c.answers = seed) ∧
    (c.phase = .done → c.queue = [] ∧ ∀ more, after f seed (calls ++ more) = c) ∧
    Fields.Kept seed c.answers ∧
    (∀ more, Fields.Kept c.answers (after f seed (calls ++ more)).answers) ∧
    (∀ answer c', c.submit answer = (c', .ok .accepted) → ∃ r v,
      c.current = .ok r ∧ r.validate answer = .ok v ∧ c.queue = r :: c'.queue ∧ Fields.get? r.name c.answers = none ∧
        ∀ n, Fields.get? n c'.answers = if r.name = n then some v else Fields.get? n c.answers) := by
  intro c
  have hc : Sound f seed c := Sound.after f seed calls
  have hmore : ∀ more, Moves f c (after f seed (calls ++ more)) := moves_after_append f seed calls
  refine ⟨hc.askable.distinct, fun r hr => ⟨hc.askable.named r hr, hc.askable.unanswered r hr⟩, hc.unstarted,
    fun h => ⟨(hc.complete h).queue, fun more => (hmore more).eq_of_done h⟩, hc.kept,
    fun more => (hc.moves (hmore more)).2, fun answer c' h => ?_⟩
  obtain ⟨r, v, hcurrent, hv, rfl⟩ := submit_accepted h
  obtain ⟨-, rest, hqueue⟩ := current_eq_ok.mp hcurrent
  refine ⟨r, v, hcurrent, hv, ?_, hc.askable.unanswered r (hqueue ▸ List.mem_cons_self), fun n => ?_⟩
  · rw [store, hqueue, List.tail_cons]
  · rw [store, Fields.get?_insert]

/-- A form with one input. -/
def topicForm : Form where
  tree := .element "Ask.Text" [("name", .string "topic")] []
  registry := Registry.standard
  ctx := Context.ofConfig {} ⟨"host", "user", "/", ⟨0, 0⟩⟩

/-- The only input is current after the start and done after its answer. -/
theorem after_invariant_topic :
    (after topicForm [] []).answers = [] ∧
    (∃ r v, (after topicForm [] [.start]).current = .ok r ∧ r.validate (.string "bees") = .ok v ∧
      (after topicForm [] [.start]).queue = r :: (after topicForm [] [.start, .submit (.string "bees")]).queue) ∧
    ∀ more, after topicForm [] ([.start, .submit (.string "bees"), .advance] ++ more) =
      after topicForm [] [.start, .submit (.string "bees"), .advance] := by
  obtain ⟨-, -, hunstarted, -⟩ := after_invariant topicForm [] []
  obtain ⟨-, -, -, -, -, -, haccepted⟩ := after_invariant topicForm [] [.start]
  obtain ⟨-, -, -, hdone, -⟩ := after_invariant topicForm [] [.start, .submit (.string "bees"), .advance]
  refine ⟨(hunstarted rfl).2, ?_, (hdone rfl).2⟩
  obtain ⟨r, v, hcurrent, hv, hqueue, -⟩ :=
    haccepted (.string "bees") (after topicForm [] [.start, .submit (.string "bees")]) rfl
  exact ⟨r, v, hcurrent, hv, hqueue⟩

end Collection
end PromptForm
