import PromptForm.Proofs.Collection.Order
import PromptForm.Proofs.Pass.Context
import PromptForm.Proofs.Tree.Grounded

/-! # Filled answers render the same

A rendering puts the default or the empty value of an open input in its place; filling stores it. The two choose the
same value, so that playing a trace with the filled answers is playing it with the answers that were filled
(`Mode.play_filled`). If the walk itself does not change while inputs are filled, then filling comes back with answers
that render the same (`Form.Steady.withDefaults`). Grounded trees without templates are walked so
(`withDefaults_renders`). -/

namespace PromptForm

/-! ### Inputs that are filled -/

/-- The first input of a name that has been opened. -/
theorem find?_of_mem_opened {answers : Fields} {r : Requirement} : ∀ {rs : List Requirement} {seen : List String},
    r ∈ opened answers seen rs → r.name ∉ seen ∧ rs.find? (·.name == r.name) = some r
  | q :: rs, seen, h => by
    rw [opened_cons] at h
    have hskip : q.name ≠ r.name → rs.find? (·.name == r.name) = some r →
        (q :: rs).find? (·.name == r.name) = some r := fun hne hrs => by
      rw [List.find?_cons_of_neg (by simpa using hne), hrs]
    have hlater : r ∈ opened answers (q.name :: seen) rs →
        r.name ∉ seen ∧ (q :: rs).find? (·.name == r.name) = some r := fun h => by
      obtain ⟨hnew, hrs⟩ := find?_of_mem_opened h
      obtain ⟨hne, hseen⟩ := not_or.mp (mt List.mem_cons.mpr hnew)
      exact ⟨hseen, hskip (Ne.symm hne) hrs⟩
    split at h
    · rename_i hmet
      obtain ⟨hnew, hrs⟩ := find?_of_mem_opened h
      have hmet : q.name ∈ seen := by simpa using hmet
      exact ⟨hnew, hskip (fun heq => hnew (heq ▸ hmet)) hrs⟩
    · rename_i hunmet
      split at h
      · exact hlater h
      · rcases List.mem_cons.mp h with rfl | h
        · exact ⟨by simpa using hunmet, List.find?_cons_of_pos (by simp)⟩
        · exact hlater h

namespace Mode
variable {answers filled : Fields}

/-- An input that is open prints alike once what stands for its answer is the answer. -/
theorem take_filled (hkept : Fields.Kept answers filled) {r : Requirement} {d : Draft}
    (hopen : r.name ∉ d.seen → Fields.get? r.name answers = none →
      r.isNeeded = false ∧ Fields.get? r.name filled = some r.fallback) :
    Mode.final.take filled r d = Mode.final.take answers r d := by
  by_cases hmet : r.name ∈ d.seen
  · rw [take_of_met hmet, take_of_met hmet]
  · cases hv : Fields.get? r.name answers with
    | some v => exact take_congr (by rw [hv, hkept _ v hv]) d
    | none =>
      obtain ⟨hneeded, hfilled⟩ := hopen hmet hv
      simp only [take, answer, Scope.answer?, hv, hfilled, substitute]
      cases hdefault : r.default with
      | some v => simp only [Requirement.fallback, hdefault, Option.getD_some]
      | none =>
        have hrequired : r.required = false := by simpa [Requirement.isNeeded, hdefault] using hneeded
        simp only [Requirement.fallback, hdefault, hrequired, Option.getD_none, Bool.false_eq_true, if_false]

/-- If the inputs that are open need no answer, a rendering makes the same of events once they are filled. -/
theorem play_filled (hkept : Fields.Kept answers filled) : ∀ (events : List Event) (desk : Desk),
    (∀ r ∈ opened answers desk.1.seen (events.filterMap Event.input?),
      r.isNeeded = false ∧ Fields.get? r.name filled = some r.fallback) →
      Mode.final.play filled events desk = Mode.final.play answers events desk
  | [], _, _ => rfl
  | event :: events, desk, h => by
    have hrest := play_filled hkept events (Mode.final.meet answers desk event)
    show Mode.final.play filled events (Mode.final.meet filled desk event) =
      Mode.final.play answers events (Mode.final.meet answers desk event)
    obtain ⟨d, outer⟩ := desk
    -- Only at an input do the answers matter to an event.
    cases hinput : event.input? with
    | none =>
      rw [List.filterMap_cons_none hinput] at h
      rw [meet_seen hinput] at hrest
      rw [← hrest h]
      congr 1
      cases event with
      | input r => cases hinput
      | leave frame => cases outer <;> rfl
      | _ => rfl
    | some r =>
      cases event_eq_input hinput
      have hseen : (Mode.final.meet answers (d, outer) (.input r)).1.seen = _ := take_seen r d
      rw [List.filterMap_cons_some hinput, opened_cons] at h
      have hmeet : Mode.final.meet filled (d, outer) (.input r) = Mode.final.meet answers (d, outer) (.input r) := by
        refine congrArg (·, outer) (take_filled hkept fun hnew hopen => h r ?_)
        rw [if_neg (by simpa using hnew), hopen]
        exact List.mem_cons_self
      rw [hmeet]
      -- What is still open after the input was open before it.
      refine hrest fun q hq => h q ?_
      rw [hseen] at hq
      split at hq
      · rename_i hmet
        rwa [if_pos hmet]
      · rename_i hnew
        rw [if_neg hnew]
        split
        · exact hq
        · exact List.mem_cons_of_mem r hq

end Mode

/-! ### Filling -/

namespace Form
variable {f : Form} {seed : Fields}

/-- A form whose walk ends well and is the same whatever is answered beyond the seed. -/
structure Steady (f : Form) (seed : Fields) : Prop where
  trace : ∀ {later}, Fields.Kept seed later → f.trace later = f.trace seed
  runs : (f.trace seed).halted = none

/-- What stands for the answer of a name: the default or empty value of its first input. -/
def standIn (f : Form) (seed : Fields) (name : String) : Value :=
  (((f.trace seed).inputs.find? (·.name == name)).map Requirement.fallback).getD .null

/-- What is left while inputs are filled: the queue is what a discovery finds, and beyond the seed there are only
    values that stand for answers. -/
structure Filling (f : Form) (seed : Fields) (c : Collection) : Prop where
  queue : c.queue = (f.discover c.answers).requirements
  phase : c.phase = if c.queue.isEmpty then .done else .collecting
  kept : Fields.Kept seed c.answers
  filled : Collection.Filled (f.standIn seed) seed c.answers

namespace Steady

theorem fatal?_eq_none (hf : f.Steady seed) {later : Fields} (hkept : Fields.Kept seed later) :
    (f.discover later).fatal? = none := by
  rw [Form.fatal?_eq_none, hf.trace hkept, hf.runs]

theorem requirements (hf : f.Steady seed) {later : Fields} (hkept : Fields.Kept seed later) :
    (f.discover later).requirements = opened later [] (f.trace seed).inputs := by
  rw [requirements_eq, hf.trace hkept]

/-- What an open input falls back to is what stands for its name. -/
theorem standIn_eq (hf : f.Steady seed) {later : Fields} (hkept : Fields.Kept seed later) {r : Requirement}
    (hr : r ∈ (f.discover later).requirements) : f.standIn seed r.name = r.fallback := by
  rw [hf.requirements hkept] at hr
  rw [standIn, (find?_of_mem_opened hr).2]
  rfl

theorem filling_rediscover (hf : f.Steady seed) {c : Collection} (hphase : c.phase = .collecting)
    (hkept : Fields.Kept seed c.answers) (hfilled : Collection.Filled (f.standIn seed) seed c.answers) :
    ∃ c', Collection.rediscover f c = (c', .ok ()) ∧ f.Filling seed c' := by
  refine ⟨_, Collection.rediscover_eq_ok.mpr ⟨hf.fatal?_eq_none hkept, rfl⟩, rfl, ?_, hkept, hfilled⟩
  simp only [Collection.noting, hphase]

theorem filling_fillOne (hf : f.Steady seed) {c : Collection} (hc : f.Filling seed c) (hopen : c.isDone = false) :
    ∃ c', Collection.fillOne f c = (c', .ok ()) ∧ f.Filling seed c' := by
  have hqueue : c.queue.isEmpty = false := by
    have hphase := hc.phase
    cases hempty : c.queue.isEmpty with
    | false => rfl
    | true => simp [Collection.isDone, hphase, hempty] at hopen
  obtain ⟨r, rest, hfirst⟩ := List.exists_cons_of_ne_nil (List.isEmpty_eq_false_iff.mp hqueue)
  have hphase : c.phase = .collecting := by rw [hc.phase, hqueue]; rfl
  have hr : r ∈ (f.discover c.answers).requirements := hc.queue ▸ hfirst ▸ List.mem_cons_self
  have hunanswered : Fields.get? r.name c.answers = none := (f.discover_askable c.answers).unanswered r hr
  have hfilled : Collection.Filled (f.standIn seed) seed (c.store r.name r.fallback).answers := by
    rw [Collection.store, ← hf.standIn_eq hc.kept hr]
    exact hc.filled.insert (hc.kept.get?_none hunanswered)
  obtain ⟨c', hnext, hc'⟩ := hf.filling_rediscover (c := c.store r.name r.fallback) hphase
    (hc.kept.trans (Fields.Kept.insert hunanswered _)) hfilled
  exact ⟨c', Collection.fillOne_eq_ok.mpr ⟨r, rest, hphase, hfirst, hnext⟩, hc'⟩

/-- Filling goes on until the collection is done. -/
theorem filling_fillAll (hf : f.Steady seed) (c : Collection) (hc : f.Filling seed c) :
    (Collection.fillAll f c).2 = .ok () ∧ f.Filling seed (Collection.fillAll f c).1 ∧
      (Collection.fillAll f c).1.isDone = true := by
  induction c using Collection.fillAll_induction f with
  | done c hdone => exact ⟨rfl, hc, hdone⟩
  | failed c c' e hopen hfill =>
    obtain ⟨c'', hok, -⟩ := hf.filling_fillOne hc hopen
    rw [hfill] at hok
    cases hok
  | filled c c' r hopen hfill ih =>
    obtain ⟨c'', hok, hc''⟩ := hf.filling_fillOne hc hopen
    rw [hfill] at hok
    cases hok
    exact ih hc''

/-- Filling comes back, and every input that was open has what stands for its answer. -/
theorem withDefaults (hf : f.Steady seed) : ∃ filled, Collection.withDefaults f seed = .ok filled ∧
    Fields.Kept seed filled ∧ ∀ r ∈ (f.discover seed).requirements, Fields.get? r.name filled = some r.fallback := by
  obtain ⟨c, hstart, hc⟩ := hf.filling_rediscover (c := { Collection.seeded seed with phase := .collecting }) rfl
    (Fields.Kept.refl seed) fun n v hv => .inl hv
  obtain ⟨hok, hend, hdone⟩ := hf.filling_fillAll c hc
  have hfill : Collection.fill f (Collection.seeded seed) = Collection.fillAll f c := by
    simp only [Collection.fill, Collection.start, Collection.seeded] at hstart ⊢
    simp only [if_true, hstart]
  refine ⟨(Collection.fillAll f c).1.answers, ?_, hend.kept, fun r hr => ?_⟩
  · simp only [Collection.withDefaults, hfill, hok]
    rfl
  · have hopen : Fields.get? r.name seed = none := (f.discover_askable seed).unanswered r hr
    have hempty : opened (Collection.fillAll f c).1.answers [] (f.trace seed).inputs = [] := by
      have hphase := hend.phase
      rw [← hf.requirements hend.kept, ← hend.queue, ← List.isEmpty_iff]
      cases hempty : (Collection.fillAll f c).1.queue.isEmpty with
      | true => rfl
      | false => simp [Collection.isDone, hphase, hempty] at hdone
    have hmet : r ∈ (f.trace seed).inputs := by
      rw [hf.requirements (Fields.Kept.refl seed)] at hr
      exact mem_of_mem_opened hr
    -- A name without an answer would still be asked for.
    cases hv : Fields.get? r.name (Collection.fillAll f c).1.answers with
    | none =>
      have hasked := name_mem_opened hv hmet List.not_mem_nil
      rw [hempty] at hasked
      cases hasked
    | some v =>
      rcases hend.filled r.name v hv with hs | ⟨-, rfl⟩
      · rw [hopen] at hs
        cases hs
      · rw [hf.standIn_eq (Fields.Kept.refl seed) hr]

/-- If no open input needs an answer then filling comes back with answers that render the same. -/
theorem withDefaults_render (hf : f.Steady seed) (hneeded : ∀ r ∈ (f.discover seed).requirements, r.isNeeded = false) :
    ∃ filled, Collection.withDefaults f seed = .ok filled ∧ f.render filled = f.render seed := by
  obtain ⟨filled, hfilled, hkept, hstored⟩ := hf.withDefaults
  refine ⟨filled, hfilled, ?_⟩
  have hplay : Mode.final.play filled (f.trace seed).events ({}, []) = Mode.final.play seed (f.trace seed).events ({}, []) :=
    Mode.play_filled hkept _ _ fun r hr => by
      have hr : r ∈ (f.discover seed).requirements := by rwa [hf.requirements (Fields.Kept.refl seed)]
      exact ⟨hneeded r hr, hstored r hr⟩
  have htrace : f.surroundings.trace f.tree filled = f.surroundings.trace f.tree seed := hf.trace hkept
  have hrun : Setting.run ⟨f.surroundings, .final⟩ f.tree filled = Setting.run ⟨f.surroundings, .final⟩ f.tree seed := by
    simp only [Setting.run_eq_gather, htrace, Mode.gather]
    exact congrArg (fun desk : Desk => { desk.1 with halted := (f.trace seed).halted }) hplay
  exact congrArg (fun draft => (⟨String.ofList (Output.normalForm f.ctx.trim draft.text), draft.actions,
    draft.allErrors⟩ : Rendered)) hrun

end Steady
end Form

/-- Filling the open inputs does not change what is rendered. In a tree without templates in which every name that a
    condition or a loop looks up is answered or bound by a loop around it, if a rendering misses no input and meets no
    fatal error, then filling comes back, and a rendering with the filled answers has the same text, actions and
    errors. -/
theorem withDefaults_renders (tree : Node) (ctx : Context) (answers : Fields) (hunmarked : tree.isUnmarked = true)
    (hgrounded : tree.Grounded (fun n => (Fields.get? n answers).isSome = true) [])
    (hmissing : ∀ name, .missingInput name ∉ (render tree .standard ctx answers).errors)
    (hfatal : ∀ e ∈ (render tree .standard ctx answers).errors, e.isFatal = false) :
    ∃ filled, Collection.withDefaults ⟨tree, .standard, ctx⟩ answers = .ok filled ∧
      render tree .standard ctx filled = render tree .standard ctx answers := by
  let f : Form := ⟨tree, .standard, ctx⟩
  have hrendered : f.render answers = render tree .standard ctx answers := rfl
  have hdiscovered : (f.discover answers).fatal? = none := by
    rw [← (render_errors_eq_discover f answers).2.2.2, hrendered, List.find?_eq_none]
    simpa using hfatal
  have hsteady : f.Steady answers :=
    ⟨fun hkept => trace_grounded rfl (tree.isUnmarked_namesOnly hunmarked) hgrounded hkept,
      Form.fatal?_eq_none.mp hdiscovered⟩
  refine hsteady.withDefaults_render fun r hr => ?_
  -- An open input that needed an answer would be missing.
  cases hneeded : r.isNeeded with
  | false => rfl
  | true =>
    have hname : r.name ∈ (f.render answers).errors.filterMap RenderError.missing? := by
      rw [f.render_missing]
      exact List.mem_map_of_mem (List.mem_filter.mpr ⟨hr, hneeded⟩)
    obtain ⟨e, he, hmissing?⟩ := List.mem_filterMap.mp hname
    cases e with
    | missingInput name => exact absurd he (hmissing name)
    | _ => cases hmissing?

/-- An input with a default, one that needs no answer in a branch, and a loop with a branch that reads what it binds. -/
def topicList : Node := .fragment [
  .element "Ask.Text" [("default", .string "bees"), ("name", .string "topic")] [],
  .element "If" [("when", .string "draft")] [.element "Ask.Text" [("name", .string "note"), ("required", .bool false)] []],
  .element "ForEach" [("as", .string "row"), ("items", .string "rows")] [
    .element "If" [("when", .string "row != 'a'")] [.text "row"]]]

/-- The topic takes its default and the note its empty value, and the rendering stays the same. -/
theorem withDefaults_renders_topics :
    let answers : Fields := [("draft", .bool true), ("rows", .string "a, b")]
    topicList.isUnmarked = true ∧ topicList.Grounded (fun n => (Fields.get? n answers).isSome = true) [] ∧
    (render topicList .standard .bare answers).errors = [] ∧
    ∃ filled, Collection.withDefaults ⟨topicList, .standard, .bare⟩ answers = .ok filled ∧
      render topicList .standard .bare filled = render topicList .standard .bare answers := by
  intro answers
  have hunmarked : topicList.isUnmarked = true := by decide +kernel
  have hgrounded : topicList.Grounded (fun n => (Fields.get? n answers).isSome = true) [] := by
    have hdraft : ∀ n ∈ Node.rootsAt "If" [("when", .string "draft")], n = "draft" := by decide +kernel
    have hrow : ∀ n ∈ Node.rootsAt "If" [("when", .string "row != 'a'")], n = "row" := by decide +kernel
    have hrows : ∀ n ∈ Node.rootsAt "ForEach" [("as", .string "row"), ("items", .string "rows")], n = "rows" := by
      decide +kernel
    have hbranch : "If" ≠ "Prompt" := by decide
    have hloop : "ForEach" ≠ "Prompt" := by decide
    refine .fragment (List.forall_mem_cons.mpr ⟨.of_other (by decide) (List.forall_mem_nil _),
      List.forall_mem_cons.mpr ⟨?_, List.forall_mem_singleton.mpr ?_⟩⟩)
    · refine .element (fun n hn => .inr (by rw [hdraft n hn]; rfl)) (fun h => absurd h hbranch) ?_
      exact List.forall_mem_singleton.mpr (.of_other (by decide) (List.forall_mem_nil _))
    · refine .element (fun n hn => .inr (by rw [hrows n hn]; rfl)) (fun h => absurd h hloop) ?_
      refine List.forall_mem_singleton.mpr (.element (fun n hn => .inl ?_) (fun h => absurd h hbranch) ?_)
      · rw [hrow n hn]
        exact List.mem_cons_self
      · exact List.forall_mem_singleton.mpr (.text _)
  have herrors : (render topicList .standard .bare answers).errors = [] := by decide +kernel
  refine ⟨hunmarked, hgrounded, herrors, withDefaults_renders topicList .bare answers hunmarked hgrounded ?_ ?_⟩
  · simp [herrors]
  · simp [herrors]

end PromptForm
