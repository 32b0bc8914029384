import PromptForm.Proofs.Pass.Context
import PromptForm.Proofs.Trace.Drafts

/-! # Siblings

The trees of a fragment are walked one after the other, and each walk begins with what those before it have met. That
matters to inputs whose names have been met already and to nothing else. So where no name is met twice, what is found
in a fragment is what is found in its trees, in their order, up to the tree that ends the pass
(`siblings_independent`). -/

namespace PromptForm

/-- A draft has what one draft has and after it what another one has. The text and the names met may be any. -/
structure Draft.Joins (d e joint : Draft) : Prop where
  requirements : joint.requirements = d.requirements ++ e.requirements
  actions : joint.actions = d.actions ++ e.actions
  errors : joint.errors = d.errors ++ e.errors

namespace Draft.Joins
variable {d : Draft} {x y : Desk} {mode : Mode} {answers : Fields}

theorem report {e joint : Draft} (h : Joins d e joint) (err : RenderError) : Joins d (e.report err) (joint.report err) where
  requirements := h.requirements
  actions := h.actions
  errors := by
    show joint.errors ++ [err] = d.errors ++ (e.errors ++ [err])
    rw [h.errors, List.append_assoc]

/-- An input that is new to both drafts adds the same to both. -/
theorem take {e joint : Draft} (h : Joins d e joint) {r : Requirement} (he : r.name ∉ e.seen) (hjoint : r.name ∉ joint.seen) :
    Joins d (mode.take answers r e) (mode.take answers r joint) := by
  obtain ⟨text, rs, es, -, hnew⟩ := mode.exists_take answers r
  rw [hnew e he, hnew joint hjoint]
  constructor
  · show joint.requirements ++ rs = d.requirements ++ (e.requirements ++ rs)
    rw [h.requirements, List.append_assoc]
  · exact h.actions
  · show joint.errors ++ es = d.errors ++ (e.errors ++ es)
    rw [h.errors, List.append_assoc]

theorem meet (h : Joins d x.1 y.1) {event : Event}
    (hnew : ∀ r, event.input? = some r → r.name ∉ x.1.seen ∧ r.name ∉ y.1.seen) :
    Joins d (mode.meet answers x event).1 (mode.meet answers y event).1 := by
  obtain ⟨e, outer⟩ := x
  obtain ⟨joint, outer'⟩ := y
  cases event with
  | input r => exact h.take (hnew r rfl).1 (hnew r rfl).2
  | fault p => exact h.report (.props p)
  | action a =>
    refine ⟨h.requirements, ?_, h.errors⟩
    show joint.actions ++ [a] = d.actions ++ (e.actions ++ [a])
    rw [h.actions, List.append_assoc]
  | leave frame => cases outer <;> cases outer' <;> exact ⟨h.requirements, h.actions, h.errors⟩
  | text | enter => exact ⟨h.requirements, h.actions, h.errors⟩

/-- The induction is on the events. Each input is new to both drafts, and after it the later ones still are, as no
    name stands twice. -/
theorem play : ∀ (events : List Event) {x y : Desk}, Joins d x.1 y.1 →
    ((events.filterMap Event.input?).map (·.name)).Nodup →
    (∀ r ∈ events.filterMap Event.input?, r.name ∉ x.1.seen ∧ r.name ∉ y.1.seen) →
      Joins d (mode.play answers events x).1 (mode.play answers events y).1
  | [], _, _, h, _, _ => h
  | event :: events, x, y, h, hnodup, hnew => by
    cases hinput : event.input? with
    | none =>
      rw [List.filterMap_cons_none hinput] at hnodup hnew
      refine play events (h.meet fun r hr => ?_) hnodup fun r hr => ?_
      · rw [hinput] at hr
        cases hr
      · rw [Mode.meet_seen hinput, Mode.meet_seen hinput]
        exact hnew r hr
    | some q =>
      rw [List.filterMap_cons_some hinput] at hnodup hnew
      obtain ⟨hq, hrest⟩ := List.forall_mem_cons.mp hnew
      rw [List.map_cons, List.nodup_cons] at hnodup
      refine play events (h.meet fun r hr => ?_) hnodup.2 fun r hr => ?_
      · rw [hinput] at hr
        cases hr
        exact hq
      · cases event_eq_input hinput
        -- Only the name of this input becomes a met one, and the later inputs have others.
        have hne : r.name ≠ q.name := fun heq => hnodup.1 (List.mem_map.mpr ⟨r, hr, heq⟩)
        have hfresh : ∀ desk : Desk, r.name ∉ desk.1.seen → r.name ∉ (mode.meet answers desk (.input q)).1.seen := by
          intro desk hdesk hmem
          have hseen : (mode.meet answers desk (.input q)).1.seen = _ := Mode.take_seen q desk.1
          rw [hseen] at hmem
          split at hmem
          · exact hdesk hmem
          · exact (List.mem_cons.mp hmem).elim hne hdesk
        exact ⟨hfresh x (hrest r hr).1, hfresh y (hrest r hr).2⟩

end Draft.Joins

/-- If no name is met twice on two traces together, a pass over both finds what the passes over each find. -/
theorem Mode.gather_andThen (answers : Fields) {t u : Trace} (ht : t.halted = none)
    (hdistinct : ∀ name, .props (.duplicateInput name) ∉ (Mode.discovery.gather answers (t.andThen u)).errors) (mode : Mode) :
    Draft.Joins (mode.gather answers t) (mode.gather answers u) (mode.gather answers (t.andThen u)) := by
  rw [Trace.andThen_of_running ht] at hdistinct ⊢
  obtain ⟨hnodup, -⟩ := nodup_of_play (t.events ++ u.events) ({}, []) hdistinct
  rw [List.filterMap_append, List.map_append, List.nodup_append] at hnodup
  obtain ⟨-, hlater, hapart⟩ := hnodup
  let before : Desk := mode.play answers t.events ({}, [])
  have hstart : Draft.Joins (mode.gather answers t) {} before.1 :=
    ⟨(List.append_nil _).symm, (List.append_nil _).symm, (List.append_nil _).symm⟩
  -- What was seen before the second trace are the inputs of the first.
  have hnew : ∀ r ∈ u.inputs, r.name ∉ ({} : Draft).seen ∧ r.name ∉ before.1.seen := by
    refine fun r hr => ⟨List.not_mem_nil, fun hseen => ?_⟩
    have hname : r.name ∈ u.inputs.map (·.name) := List.mem_map_of_mem hr
    rcases mem_play_seen t.events hseen with hnone | hmet
    · cases hnone
    · exact hapart _ hmet _ hname rfl
  have hjoins : Draft.Joins (mode.gather answers t) (mode.play answers u.events ({}, [])).1
      (mode.play answers u.events before).1 := Draft.Joins.play u.events (x := ({}, [])) hstart hlater hnew
  rw [← play_append] at hjoins
  exact ⟨hjoins.requirements, hjoins.actions, hjoins.errors⟩

/-! ### Findings -/

/-- What the two passes over a tree find, apart from the text. -/
structure Findings where
  /-- The inputs and the errors of the discovery. -/
  requirements : List Requirement := []
  faults : List RenderError := []
  /-- The actions and the errors of the rendering. -/
  actions : List Action := []
  errors : List RenderError := []

namespace Findings

instance : Append Findings where
  append f g := ⟨f.requirements ++ g.requirements, f.faults ++ g.faults, f.actions ++ g.actions, f.errors ++ g.errors⟩

theorem append_empty (f : Findings) : f ++ {} = f := by
  show Findings.mk _ _ _ _ = f
  simp only [List.append_nil]

end Findings

def findings (registry : Registry) (ctx : Context) (answers : Fields) (tree : Node) : Findings :=
  let found := discover tree registry ctx answers
  let rendered := render tree registry ctx answers
  ⟨found.requirements, found.errors, rendered.actions, rendered.errors⟩

/-- No name of an input is met twice. -/
def Discovery.isDistinct (d : Discovery) : Prop := ∀ name, .props (.duplicateInput name) ∉ d.errors

namespace Trace
variable {answers : Fields} {t u : Trace}

/-- The findings of a walk. -/
def findings (answers : Fields) (t : Trace) : Findings :=
  let found := Mode.discovery.gather answers t
  let rendered := Mode.final.gather answers t
  ⟨found.requirements, found.allErrors, rendered.actions, rendered.allErrors⟩

/-- The second walk ends the passes just as it does on its own. -/
theorem findings_andThen (ht : t.halted = none)
    (hdistinct : ∀ name, .props (.duplicateInput name) ∉ ((t.andThen u).findings answers).faults) :
    (t.andThen u).findings answers = t.findings answers ++ u.findings answers := by
  have hjoins := Mode.gather_andThen answers (u := u) ht fun name hname =>
    hdistinct name (List.mem_append_left _ hname)
  have herrors : ∀ mode : Mode, (mode.gather answers (t.andThen u)).allErrors =
      (mode.gather answers t).allErrors ++ (mode.gather answers u).allErrors := fun mode => by
    have hfirst : (mode.gather answers t).halted = none := ht
    have hjoint : (mode.gather answers (t.andThen u)).halted = (mode.gather answers u).halted := by
      rw [andThen_of_running ht]
      rfl
    simp only [Draft.allErrors, (hjoins mode).errors, hfirst, hjoint, Option.map_none, Option.toList_none,
      List.append_nil, List.append_assoc]
  show Findings.mk _ _ _ _ = Findings.mk _ _ _ _
  rw [(hjoins .discovery).requirements, herrors .discovery, (hjoins .final).actions, herrors .final]
  rfl

end Trace

section Fragments
variable {registry : Registry} {ctx : Context} {answers : Fields}

theorem findings_of_trace (tree : Node) : findings registry ctx answers tree =
    (Surroundings.trace ⟨registry, ctx⟩ tree answers).findings answers := by
  simp only [findings, Trace.findings, discover, render, Setting.run_eq_gather]

/-- A tree that does not end the discovery is found first, and then the rest of the fragment. -/
theorem findings_fragment {n rest joint : Node}
    (htrace : Surroundings.trace ⟨registry, ctx⟩ joint answers =
      (Surroundings.trace ⟨registry, ctx⟩ n answers).andThen (Surroundings.trace ⟨registry, ctx⟩ rest answers))
    (hdistinct : (discover joint registry ctx answers).isDistinct)
    (hgoes : (discover n registry ctx answers).fatal? = none) :
    findings registry ctx answers joint = findings registry ctx answers n ++ findings registry ctx answers rest := by
  have hruns : (Surroundings.trace ⟨registry, ctx⟩ n answers).halted = none := by
    rw [← Mode.discovery.harmless_iff answers]
    simpa only [Discovery.fatal?, List.find?_eq_none, Bool.not_eq_true, discover, Setting.run_eq_gather] using hgoes
  have hunique : ∀ name, .props (.duplicateInput name) ∉ (findings registry ctx answers joint).faults := hdistinct
  simp only [findings_of_trace, htrace] at hunique ⊢
  exact Trace.findings_andThen hruns hunique

/-- What is found in a fragment comes in the order of its trees. The induction is on the trees; the last of them may
    end the pass. -/
theorem findings_in_order : ∀ ns : List Node, (discover (.fragment ns) registry ctx answers).isDistinct →
    (∀ n ∈ ns.dropLast, (discover n registry ctx answers).fatal? = none) →
      findings registry ctx answers (.fragment ns) = (ns.map (findings registry ctx answers)).foldr (· ++ ·) {}
  | [], _, _ => rfl
  | [n], _, _ => by
    have htrace : Surroundings.trace ⟨registry, ctx⟩ (.fragment [n]) answers =
        Surroundings.trace ⟨registry, ctx⟩ n answers := Trace.andThen_nil _
    rw [findings_of_trace, htrace, ← findings_of_trace, List.map_singleton, List.foldr_cons, List.foldr_nil, Findings.append_empty]
  | n :: m :: ns, hdistinct, hgoes => by
    rw [List.dropLast_cons_cons, List.forall_mem_cons] at hgoes
    have hjoint : findings registry ctx answers (.fragment (n :: m :: ns)) =
        findings registry ctx answers n ++ findings registry ctx answers (.fragment (m :: ns)) :=
      findings_fragment rfl hdistinct hgoes.1
    have hrest : (discover (.fragment (m :: ns)) registry ctx answers).isDistinct := fun name hname => by
      have hfaults := congrArg Findings.faults hjoint
      refine hdistinct name ?_
      show _ ∈ (findings registry ctx answers (.fragment (n :: m :: ns))).faults
      rw [hfaults]
      exact List.mem_append_right _ hname
    rw [hjoint, findings_in_order (m :: ns) hrest hgoes.2, List.map_cons (a := n), List.foldr_cons]

end Fragments

/-- Sibling subtrees contribute independently. If no name is met twice in a fragment of two trees and the first does
    not end the pass, then what is found in the fragment, in the discovery as well as in the rendering, is what is found
    in the first and then what is found in the second. So inputs, errors and actions come in document order, for any
    number of trees. -/
theorem siblings_independent (registry : Registry) (ctx : Context) (answers : Fields) :
    (∀ a b : Node, (discover (.fragment [a, b]) registry ctx answers).isDistinct →
      (discover a registry ctx answers).fatal? = none →
        findings registry ctx answers (.fragment [a, b]) = findings registry ctx answers a ++ findings registry ctx answers b) ∧
    (∀ ns : List Node, (discover (.fragment ns) registry ctx answers).isDistinct →
      (∀ n ∈ ns.dropLast, (discover n registry ctx answers).fatal? = none) →
        findings registry ctx answers (.fragment ns) = (ns.map (findings registry ctx answers)).foldr (· ++ ·) {}) := by
  refine ⟨fun a b hdistinct hgoes => findings_fragment ?_ hdistinct hgoes, findings_in_order⟩
  show Trace.andThen _ (Trace.andThen _ {}) = _
  rw [Trace.andThen_nil]
  rfl

/-- An input before a tag that means nothing. -/
def askedTopic : Node := .fragment [.element "Ask.Text" [("name", .string "topic")] [], .element "Nothing" [] []]

/-- An action before another input. -/
def askedTone : Node :=
  .fragment [.element "ReviewFile" [("file", .string "memo.md")] [], .element "Ask.Text" [("name", .string "tone")] []]

/-- Each of the two trees has findings, and together they have both. -/
theorem siblings_independent_asked :
    (discover (.fragment [askedTopic, askedTone]) .standard .bare []).isDistinct ∧
    (discover askedTopic .standard .bare []).fatal? = none ∧
    findings .standard .bare [] (.fragment [askedTopic, askedTone]) =
      findings .standard .bare [] askedTopic ++ findings .standard .bare [] askedTone ∧
    findings .standard .bare [] (.fragment [askedTopic, askedTone]) =
      ([askedTopic, askedTone].map (findings .standard .bare [])).foldr (· ++ ·) {} := by
  have herrors : (discover (.fragment [askedTopic, askedTone]) .standard .bare []).errors =
      [.props (.unknownComponent "Nothing")] := by decide +kernel
  have hdistinct : (discover (.fragment [askedTopic, askedTone]) .standard .bare []).isDistinct := fun name hname => by
    simp [herrors] at hname
  have hgoes : (discover askedTopic .standard .bare []).fatal? = none := by decide +kernel
  obtain ⟨hpair, hall⟩ := siblings_independent .standard .bare []
  exact ⟨hdistinct, hgoes, hpair askedTopic askedTone hdistinct hgoes,
    hall [askedTopic, askedTone] hdistinct (List.forall_mem_singleton.mpr hgoes)⟩

end PromptForm
