import PromptForm.Proofs.Pass.Modes
import PromptForm.Proofs.Trace.Inputs

/-! # What a discovery asks for

The inputs that a discovery finds have names of their own, each an identifier, and none of them has an
answer yet (`Form.discover_askable`). The invariant of the pass is that every input found so far is among the
names met. -/

namespace PromptForm

/-- Inputs that can be asked for one after the other: each has a name of its own, and no answer yet. -/
structure Askable (answers : Fields) (rs : List Requirement) : Prop where
  distinct : (rs.map (·.name)).Nodup
  named : ∀ r ∈ rs, Text.isIdentifier r.name = true
  unanswered : ∀ r ∈ rs, Fields.get? r.name answers = none

namespace Askable
variable {answers : Fields} {r : Requirement} {rs : List Requirement}

theorem nil : Askable answers [] := ⟨List.nodup_nil, by simp, by simp⟩

theorem append (h : Askable answers rs) (hnew : r.name ∉ rs.map (·.name)) (hname : Text.isIdentifier r.name = true)
    (hopen : Fields.get? r.name answers = none) : Askable answers (rs ++ [r]) where
  distinct := by
    rw [List.map_append, List.nodup_append]
    refine ⟨h.distinct, List.nodup_cons.mpr ⟨List.not_mem_nil, List.nodup_nil⟩, fun a ha b hb hab => ?_⟩
    rw [List.map_singleton, List.mem_singleton] at hb
    exact hnew (hb ▸ hab ▸ ha)
  named q hq := by
    rcases List.mem_append.mp hq with hq | hq
    · exact h.named q hq
    · rwa [List.mem_singleton.mp hq]
  unanswered q hq := by
    rcases List.mem_append.mp hq with hq | hq
    · exact h.unanswered q hq
    · rwa [List.mem_singleton.mp hq]

/-- An answer for the first input leaves the others to be asked for. -/
theorem answered (h : Askable answers (r :: rs)) (v : Value) : Askable (Fields.insert r.name v answers) rs where
  distinct := (List.nodup_cons.mp h.distinct).2
  named q hq := h.named q (List.mem_cons_of_mem r hq)
  unanswered q hq := by
    have hne : r.name ≠ q.name := fun heq =>
      (List.nodup_cons.mp h.distinct).1 (List.mem_map.mpr ⟨q, hq, heq.symm⟩)
    rw [Fields.get?_insert, if_neg hne]
    exact h.unanswered q (List.mem_cons_of_mem r hq)

end Askable

/-- The answers of one collection are kept in the other. -/
def Fields.Kept (a b : Fields) : Prop := ∀ n v, Fields.get? n a = some v → Fields.get? n b = some v

namespace Fields.Kept
variable {a b c : Fields}

theorem refl (a : Fields) : Kept a a := fun _ _ h => h

theorem trans (hab : Kept a b) (hbc : Kept b c) : Kept a c := fun n v h => hbc n v (hab n v h)

/-- What has no answer later had none before. -/
theorem get?_none (hab : Kept a b) {name : String} (h : Fields.get? name b = none) : Fields.get? name a = none := by
  cases hv : Fields.get? name a with
  | none => rfl
  | some v =>
    rw [hab name v hv] at h
    cases h

/-- A new name replaces no answer. -/
theorem insert {name : String} (h : Fields.get? name a = none) (v : Value) : Kept a (Fields.insert name v a) := by
  intro n w hw
  have hne : name ≠ n := fun heq => by rw [heq, hw] at h; cases h
  rwa [Fields.get?_insert, if_neg hne]

end Fields.Kept

/-! ### The invariant of a discovery -/

/-- What a discovery has noted can be asked for, and its names are among those met. -/
structure Noted (answers : Fields) (d : Draft) : Prop where
  askable : Askable answers d.requirements
  seen : ∀ r ∈ d.requirements, r.name ∈ d.seen

namespace Noted
variable {answers : Fields} {d : Draft}

theorem of_eq {d' : Draft} (h : Noted answers d) (hr : d'.requirements = d.requirements) (hs : d'.seen = d.seen) :
    Noted answers d' := ⟨hr ▸ h.askable, hr ▸ hs ▸ h.seen⟩

theorem take (h : Noted answers d) {r : Requirement} (hname : Text.isIdentifier r.name = true) :
    Noted answers (Mode.discovery.take answers r d) := by
  unfold Mode.take
  split
  · exact h.of_eq rfl rfl
  · rename_i hseen
    have hnew : r.name ∉ d.seen := by simpa using hseen
    simp only [Mode.answer]
    cases hopen : Scope.answer? ⟨answers, []⟩ r.name with
    | some v => exact ⟨h.askable, fun q hq => List.mem_cons_of_mem _ (h.seen q hq)⟩
    | none =>
      refine ⟨h.askable.append (fun hmem => ?_) hname hopen, fun q hq => ?_⟩
      · obtain ⟨q, hq, heq⟩ := List.mem_map.mp hmem
        exact hnew (heq ▸ h.seen q hq)
      · rcases List.mem_append.mp hq with hq | hq
        · exact List.mem_cons_of_mem _ (h.seen q hq)
        · rw [List.mem_singleton.mp hq]
          exact List.mem_cons_self

theorem meet {desk : Desk} (h : Noted answers desk.1) {event : Event}
    (hname : ∀ r, event = .input r → Text.isIdentifier r.name = true) :
    Noted answers (Mode.discovery.meet answers desk event).1 := by
  obtain ⟨d, outer⟩ := desk
  cases event with
  | input r => exact h.take (hname r rfl)
  | leave frame => cases outer <;> exact h.of_eq rfl rfl
  | _ => exact h.of_eq rfl rfl

theorem play {desk : Desk} (h : Noted answers desk.1) {events : List Event}
    (hnames : ∀ r, .input r ∈ events → Text.isIdentifier r.name = true) :
    Noted answers (Mode.discovery.play answers events desk).1 := by
  induction events generalizing desk with
  | nil => exact h
  | cons event events ih =>
    have hfirst : ∀ r, event = .input r → Text.isIdentifier r.name = true := fun r hr =>
      hnames r (hr ▸ List.mem_cons_self)
    exact ih (h.meet hfirst) fun r hr => hnames r (List.mem_cons_of_mem event hr)

end Noted

/-- The inputs that a discovery finds can be asked for. -/
theorem Form.discover_askable (f : Form) (answers : Fields) : Askable answers (f.discover answers).requirements := by
  rw [f.discover_eq]
  have hstart : Noted answers ({} : Draft) := ⟨Askable.nil, by simp⟩
  have hend : Noted answers (Mode.discovery.play answers (f.trace answers).events ({}, [])).1 :=
    hstart.play fun r hr => Surroundings.trace_name hr
  exact hend.askable

end PromptForm
