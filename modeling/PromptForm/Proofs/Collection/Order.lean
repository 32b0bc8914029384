import PromptForm.Proofs.Collection.Invariant
import PromptForm.Proofs.Growth.Questions
import PromptForm.Proofs.Settling.Trace

/-! # The order of answers

Where templates stand in the names of inputs only, the order in which inputs are answered does not matter
(`Collection.done_unique`). Let each input get the answer that belongs to its name. Whatever a run asks for, it asks
for among the answers of any run that is done, as more answers hide no question (`Form.asked_later`); so the answers
of one run stay below those of the other, and if both are done they are the same. -/

namespace PromptForm

/-! ### The same answers -/

/-- What settles while answers are added reads them by name. -/
theorem Settles.eq_of_get? {α : Type} {read : Fields → α} (h : ∀ answers : Nat → Fields,
    (∀ n, Settles fun k => Fields.get? n (answers k)) → Settles fun k => read (answers k)) {a b : Fields}
    (hab : ∀ n, Fields.get? n a = Fields.get? n b) : read a = read b := by
  -- Answers that change between the two forever.
  let turns : Nat → Fields := fun k => if k % 2 = 0 then a else b
  have hsteady : ∀ n k, Fields.get? n (turns k) = Fields.get? n a := fun n k => by
    simp only [turns]
    split
    · rfl
    · exact (hab n).symm
  obtain ⟨i, hi⟩ := h turns fun n => ⟨0, fun k _ => (hsteady n k).trans (hsteady n 0).symm⟩
  have heven : turns (2 * i) = a := if_pos (by omega)
  have hodd : turns (2 * i + 1) = b := if_neg (by omega)
  have hsame : read (turns (2 * i)) = read (turns (2 * i + 1)) :=
    (hi (2 * i) (by omega)).trans (hi (2 * i + 1) (by omega)).symm
  rwa [heven, hodd] at hsame

/-- A rendering settles while answers are added. -/
theorem Form.render_settles (f : Form) {answers : Nat → Fields} (h : ∀ n, Settles fun k => Fields.get? n (answers k)) :
    Settles fun k => f.render (answers k) := by
  have htrace : Settles fun k => f.trace (answers k) :=
    Surroundings.settles_node (Surroundings.settles_element maxDepth) (Steady.of_answers h) 0 f.tree
  have hdraft : Settles fun k => Setting.run ⟨f.surroundings, .final⟩ f.tree (answers k) := by
    simp only [Setting.run_eq_play]
    refine htrace.bind (g := fun t k => { (Mode.final.play (answers k) t.events ({}, [])).1 with halted := t.halted })
      fun t => ?_
    exact (Mode.final.settles_play h t.events ({}, [])).map fun desk => { desk.1 with halted := t.halted }
  exact hdraft.map fun draft =>
    (⟨String.ofList (Output.normalForm f.ctx.trim draft.text), draft.actions, draft.allErrors⟩ : Rendered)

/-- A rendering reads answers by name. -/
theorem Form.render_congr (f : Form) {a b : Fields} (h : ∀ n, Fields.get? n a = Fields.get? n b) :
    f.render a = f.render b :=
  Settles.eq_of_get? (fun _ => f.render_settles) h

namespace Collection

/-- What is left by a run in which the current input is given the answer that belongs to its name, and takes it as the
    value that belongs to its name. Calls may come in any order. -/
inductive Run (f : Form) (choose stored : String → Value) (seed : Fields) : Collection → Prop where
  | seeded : Run f choose stored seed (seeded seed)
  | start {c} (h : Run f choose stored seed c) : Run f choose stored seed (start f c).1
  | submit {c r} (h : Run f choose stored seed c) (hr : c.current = .ok r)
      (hv : r.validate (choose r.name) = .ok (stored r.name)) : Run f choose stored seed (c.submit (choose r.name)).1
  | advance {c} (h : Run f choose stored seed c) : Run f choose stored seed (advance f c).1

/-- Beyond the seed there are only the values that belong to the names. -/
def Filled (stored : String → Value) (seed answers : Fields) : Prop :=
  ∀ n v, Fields.get? n answers = some v → Fields.get? n seed = some v ∨ Fields.get? n seed = none ∧ v = stored n

/-- Storing the value that belongs to a name without an answer. -/
theorem Filled.insert {stored : String → Value} {seed answers : Fields} (h : Filled stored seed answers)
    {name : String} (hopen : Fields.get? name seed = none) :
    Filled stored seed (Fields.insert name (stored name) answers) := by
  intro n v hn
  rw [Fields.get?_insert] at hn
  split at hn
  · rename_i hname
    cases hn
    subst hname
    exact .inr ⟨hopen, rfl⟩
  · exact h n v hn

/-- What is filled alike agrees where both have an answer. -/
theorem Filled.kept {stored : String → Value} {seed a b : Fields} (ha : Filled stored seed a) (hb : Filled stored seed b)
    (hnames : ∀ n, (Fields.get? n a).isSome = true → (Fields.get? n b).isSome = true) : Fields.Kept a b := by
  intro n v hv
  obtain ⟨w, hw⟩ := Option.isSome_iff_exists.mp (hnames n (by rw [hv]; rfl))
  rw [hw]
  rcases ha n v hv with hs | ⟨hs, rfl⟩ <;> rcases hb n w hw with hs' | ⟨hs', rfl⟩
  · rw [← hs, ← hs']
  · rw [hs] at hs'
    cases hs'
  · rw [hs] at hs'
    cases hs'
  · rfl

namespace Run
variable {f : Form} {choose stored : String → Value} {seed : Fields} {c d : Collection}

theorem eq_after (h : Run f choose stored seed c) : ∃ calls, c = after f seed calls := by
  have hsnoc : ∀ calls call, perform f (after f seed calls) call = after f seed (calls ++ [call]) := fun calls call => by
    rw [after, after, List.foldl_append]
    rfl
  induction h with
  | seeded => exact ⟨[], rfl⟩
  | start _ ih =>
    obtain ⟨calls, rfl⟩ := ih
    exact ⟨_, hsnoc calls .start⟩
  | submit _ _ _ ih =>
    obtain ⟨calls, rfl⟩ := ih
    exact ⟨_, hsnoc calls (.submit _)⟩
  | advance _ ih =>
    obtain ⟨calls, rfl⟩ := ih
    exact ⟨_, hsnoc calls .advance⟩

theorem sound (h : Run f choose stored seed c) : Sound f seed c := by
  obtain ⟨calls, rfl⟩ := h.eq_after
  exact Sound.after f seed calls

theorem submit_eq {r : Requirement} {v : Value} {answer : Value} (hr : c.current = .ok r)
    (hv : r.validate answer = .ok v) : (c.submit answer).1 = c.store r.name v := by
  simp only [Collection.submit, hr, hv]

/-- Neither a start nor a new round changes answers. -/
theorem answers_rediscover (f : Form) (c : Collection) : (rediscover f c).1.answers = c.answers := by
  unfold rediscover
  dsimp only
  split <;> rfl

theorem answers_start (f : Form) (c : Collection) : (Collection.start f c).1.answers = c.answers := by
  unfold Collection.start
  split
  · exact answers_rediscover f _
  · rfl

theorem answers_advance (f : Form) (c : Collection) : (Collection.advance f c).1.answers = c.answers := by
  unfold Collection.advance
  split
  · rfl
  · exact answers_rediscover f c

theorem filled (h : Run f choose stored seed c) : Filled stored seed c.answers := by
  induction h with
  | seeded => exact fun n v hv => .inl hv
  | start _ ih => rwa [answers_start]
  | advance _ ih => rwa [answers_advance]
  | @submit c r h hr hv ih =>
    obtain ⟨-, rest, hqueue⟩ := current_eq_ok.mp hr
    have hopen : Fields.get? r.name c.answers = none := h.sound.askable.unanswered r (hqueue ▸ List.mem_cons_self)
    rw [submit_eq hr hv]
    exact ih.insert (h.sound.kept.get?_none hopen)

/-! ### Within the answers of a run that is done -/

/-- Whatever is answered or asked for is among the later answers. -/
structure Within (later : Fields) (c : Collection) : Prop where
  answered : ∀ n, (Fields.get? n c.answers).isSome = true → (Fields.get? n later).isSome = true
  asked : ∀ r ∈ c.queue, (Fields.get? r.name later).isSome = true

variable {later : Fields} {form : Value → Prop}

/-- A new round asks for nothing beyond the answers that leave nothing open. -/
theorem Within.rediscover (hf : f.registry = Registry.standard) (htree : f.tree.NamesOnly f.registry form)
    (hfatal : (f.discover later).fatal? = none) (hend : (f.discover later).requirements = [])
    (hkept : Fields.Kept c.answers later) (h : Within later c) : Within later (rediscover f c).1 := by
  refine ⟨fun n hn => h.answered n (by rwa [answers_rediscover] at hn), ?_⟩
  unfold Collection.rediscover
  dsimp only
  split
  · exact h.asked
  · intro r hr
    refine (Form.asked_later hf htree hkept hfatal r hr).resolve_right ?_
    rw [hend]
    exact List.not_mem_nil

/-- The answers of a run stay below those of a run that is done. -/
theorem within (hf : f.registry = Registry.standard) (htree : f.tree.NamesOnly f.registry form)
    (hd : Run f choose stored seed d) (hdone : d.phase = .done) (h : Run f choose stored seed c) : Within d.answers c := by
  have hcomplete := hd.sound.complete hdone
  -- Within the answers of the other run a name has the one value that belongs to it.
  have hkept : ∀ {c : Collection}, Run f choose stored seed c → Within d.answers c → Fields.Kept c.answers d.answers :=
    fun h hbelow => h.filled.kept hd.filled hbelow.answered
  induction h with
  | seeded => exact ⟨fun n hn => by
      obtain ⟨v, hv⟩ := Option.isSome_iff_exists.mp hn
      rw [hd.sound.kept n v hv]
      rfl, nofun⟩
  | @start c h ih =>
    have hanswers : Fields.Kept c.answers d.answers := hkept h ih
    unfold Collection.start
    split
    · exact Within.rediscover hf htree hcomplete.fatal? hcomplete.requirements hanswers ⟨ih.answered, ih.asked⟩
    · exact ih
  | @advance c h ih =>
    unfold Collection.advance
    split
    · exact ih
    · exact Within.rediscover hf htree hcomplete.fatal? hcomplete.requirements (hkept h ih) ih
  | @submit c r h hr hv ih =>
    obtain ⟨-, rest, hqueue⟩ := current_eq_ok.mp hr
    rw [submit_eq hr hv]
    refine ⟨fun n hn => ?_, fun q hq => ih.asked q (List.mem_of_mem_tail hq)⟩
    rw [Collection.store, Fields.get?_insert] at hn
    split at hn
    · rename_i hname
      exact hname ▸ ih.asked r (hqueue ▸ List.mem_cons_self)
    · exact ih.answered n hn

end Run

/-- The order in which inputs are answered does not matter where templates stand in the names of inputs only. If each
    input gets the answer that belongs to its name, then two runs from one seed that are both done have the same
    answers, whenever they went on to the next round, and so they render the same. -/
theorem done_unique {f : Form} {form : Value → Prop} {choose stored : String → Value} {seed : Fields} {c d : Collection}
    (hf : f.registry = Registry.standard) (htree : f.tree.NamesOnly f.registry form) (hc : Run f choose stored seed c)
    (hd : Run f choose stored seed d) (hcdone : c.isDone = true) (hddone : d.isDone = true) :
    (∀ n, Fields.get? n c.answers = Fields.get? n d.answers) ∧ f.render c.answers = f.render d.answers := by
  have hcphase : c.phase = .done := by simpa [isDone] using hcdone
  have hdphase : d.phase = .done := by simpa [isDone] using hddone
  have hcd : Fields.Kept c.answers d.answers := hc.filled.kept hd.filled (Run.within hf htree hd hdphase hc).answered
  have hdc : Fields.Kept d.answers c.answers := hd.filled.kept hc.filled (Run.within hf htree hc hcphase hd).answered
  have hsame : ∀ n, Fields.get? n c.answers = Fields.get? n d.answers := fun n =>
    Option.ext fun v => ⟨hcd n v, hdc n v⟩
  exact ⟨hsame, f.render_congr hsame⟩

/-- An input that is labelled by its name. -/
def plainInput (kind : InputKind) (name : String) : Requirement := { name, kind, label := name }

/-- Runs in which each input gets its name for an answer. -/
abbrev SiteRun : Collection → Prop := Run Form.siteForm Value.string Value.string []

theorem SiteRun.advanced {c c' : Collection} (h : SiteRun c) (heq : (advance Form.siteForm c).1 = c') : SiteRun c' :=
  heq ▸ Run.advance h

/-- The token is asked for right after the site, or only after the topic. -/
theorem done_unique_site :
    let early := after Form.siteForm [] [.start, .submit (.string "site"), .advance, .submit (.string "site_token"),
      .submit (.string "topic"), .advance]
    let late := after Form.siteForm [] [.start, .submit (.string "site"), .submit (.string "topic"), .advance,
      .submit (.string "site_token"), .advance]
    early.isDone = true ∧ late.isDone = true ∧ (∀ n, Fields.get? n early.answers = Fields.get? n late.answers) ∧
      Form.siteForm.render early.answers = Form.siteForm.render late.answers := by
  intro early late
  have hstart : SiteRun ⟨[], [plainInput .text "site", plainInput .text "topic"], .collecting, []⟩ := by
    have h : SiteRun (start Form.siteForm (seeded [])).1 := .start .seeded
    have heq : (start Form.siteForm (seeded [])).1 =
        ⟨[], [plainInput .text "site", plainInput .text "topic"], .collecting, []⟩ := by decide +kernel
    rwa [heq] at h
  have hsite : SiteRun ⟨[("site", .string "site")], [plainInput .text "topic"], .collecting, []⟩ :=
    Run.submit hstart rfl rfl
  -- The two orders share the first answer and part with the advance that finds the token.
  have hearly : SiteRun early := by
    have hround : SiteRun ⟨[("site", .string "site")], [plainInput .secret "site_token", plainInput .text "topic"],
        .collecting, []⟩ := hsite.advanced (by decide +kernel)
    have htoken : SiteRun ⟨[("site", .string "site"), ("site_token", .string "site_token")],
        [plainInput .text "topic"], .collecting, []⟩ := Run.submit hround rfl rfl
    have htopic : SiteRun ⟨[("site", .string "site"), ("site_token", .string "site_token"), ("topic", .string "topic")],
        [], .collecting, []⟩ := Run.submit htoken rfl rfl
    exact htopic.advanced (by decide +kernel)
  have hlate : SiteRun late := by
    have htopic : SiteRun ⟨[("site", .string "site"), ("topic", .string "topic")], [], .collecting, []⟩ :=
      Run.submit hsite rfl rfl
    have hround : SiteRun ⟨[("site", .string "site"), ("topic", .string "topic")], [plainInput .secret "site_token"],
        .collecting, []⟩ := htopic.advanced (by decide +kernel)
    have htoken : SiteRun ⟨[("site", .string "site"), ("site_token", .string "site_token"), ("topic", .string "topic")],
        [], .collecting, []⟩ := Run.submit hround rfl rfl
    exact htoken.advanced (by decide +kernel)
  have hearlydone : early.isDone = true := by decide +kernel
  have hlatedone : late.isDone = true := by decide +kernel
  exact ⟨hearlydone, hlatedone, done_unique rfl Form.siteForm_namesOnly hearly hlate hearlydone hlatedone⟩

end Collection
end PromptForm
