import PromptForm.Proofs.Growth.NamesOnly

/-! # More answers hide no question

Where templates stand in the names of inputs only, a walk with more answers meets all inputs that a walk with some
of them meets, and in the same order (`Form.inputs_sublist`). A discovery asks for the first input of each name that
has no answer (`Form.requirements_eq`). So what is asked for with some answers is asked for with more of them unless
it is answered there (`Form.asked_later`), and in the same order if no name stands twice (`Form.discover_grows`). -/

namespace PromptForm

/-! ### Inputs of a trace -/

/-- One walk meets all inputs of another, if it does not end early. -/
def Trace.Feeds (t u : Trace) : Prop := u.halted = none → t.inputs.Sublist u.inputs

namespace Trace
variable {t u : Trace}

theorem inputs_framed (frame : Frame) : (t.framed frame).inputs = t.inputs := by
  show (Event.enter :: (t.events ++ [Event.leave frame])).filterMap Event.input? = _
  rw [List.filterMap_cons, List.filterMap_append]
  exact List.append_nil _

theorem inputs_andThen (h : t.halted = none) : (t.andThen u).inputs = t.inputs ++ u.inputs := by
  simp [inputs, andThen, h, List.filterMap_append]

theorem inputs_andThen_sublist : (t.andThen u).inputs.Sublist (t.inputs ++ u.inputs) := by
  cases h : t.halted with
  | none => exact inputs_andThen h ▸ List.Sublist.refl _
  | some m => simp [andThen, h]

theorem feeds_lockstep : Lockstep Feeds where
  refl _ _ := List.Sublist.refl _
  empty _ _ := List.nil_sublist _
  andThen {t u t' u'} ht hu h := by
    obtain ⟨hfirst, hrest⟩ := andThen_halted.mp h
    rw [inputs_andThen hfirst]
    exact inputs_andThen_sublist.trans ((ht hfirst).append (hu hrest))
  framed frame ht h := by
    rw [inputs_framed, inputs_framed]
    exact ht h

end Trace

/-! ### What is read alike -/

namespace Surroundings
variable {s : Surroundings} {scope : Scope} {v : Value}

/-- Only a text expands to a text. -/
theorem expandValue_text {text : String} (h : s.expandValue scope v = .ok (.string text)) : ∃ source, v = .string source := by
  cases v with
  | string source => exact ⟨source, rfl⟩
  | list items =>
    simp only [expandValue] at h
    cases hitems : items.mapM (s.expandText scope) <;> simp [hitems, Except.map] at h
  | _ => cases h

end Surroundings

/-- An input whose props fit is named by a text. -/
theorem Component.name_text {kind : InputKind} {props : Fields} (hfits : (askSchema kind).violations (.object props) = [])
    {v : Value} (hv : Fields.get? "name" props = some v) : ∃ text, v = .string text := by
  obtain ⟨known, hschema, hknown⟩ := name_schema kind
  obtain ⟨text, hv, -⟩ := Schema.matching_fits (Schema.known_fits (hschema ▸ hfits) hknown hv)
  exact ⟨text, hv⟩

namespace Surroundings
variable {s : Surroundings} {scope : Scope} {later : Fields} {tag : String} {props : Fields} {children : List Node}

/-- What is named by something else than a text is no input. -/
theorem inputs_of_not_text {room sections : Nat} {v : Value} (hasks : s.registry.asksInput tag = true)
    (hname : Fields.get? "name" props = some v) (hv : ∀ text, v ≠ .string text) :
    (s.elementTrace (room + 1) tag props children scope sections).inputs = [] := by
  rw [elementTrace_eq]
  cases hverdict : s.verdict tag props scope with
  | malformed m => rfl
  | waiting => rfl
  | refused expanded e => rfl
  | handled expanded handler =>
    have hhandles := verdict_eq_handled.mp hverdict
    have hhandler := Registry.handler?_of_resolve hhandles.handler
    have hfits := Registry.resolve_fits hhandles.handler
    obtain ⟨w, hw, hvw⟩ := get?_expandProps hhandles.props hname
    cases handler with
    | intrinsic i => simp [Registry.asksInput, hhandler] at hasks
    | component c =>
      rw [Registry.asksInput_component hhandler] at hasks
      cases c with
      | ask kind =>
        -- A name that fits is a text, and only a text expands to one.
        obtain ⟨text, rfl⟩ := Component.name_text hfits hw
        obtain ⟨source, hsource⟩ := expandValue_text hvw
        exact absurd hsource (hv source)
      | _ => cases hasks

/-- A decided input has its props read alike, unless its name is no text. -/
theorem expandProps_named {form : Value → Prop} (hkept : Fields.Kept scope.answers later)
    (hnode : (Node.element tag props children).NamesOnly s.registry form)
    (hdecided : s.isWaiting tag props scope = .ok false) :
    s.expandProps (scope.answering later) props = s.expandProps scope props ∨
    s.registry.asksInput tag = true ∧ ∃ v, Fields.get? "name" props = some v ∧ form v ∧ ∀ text, v ≠ .string text := by
  by_cases hlist : s.registry.asksInput tag = true ∧
      ∃ v, Fields.get? "name" props = some v ∧ form v ∧ ∀ text, v ≠ .string text
  · exact .inr hlist
  · refine .inl (expandProps_congr fun k v hprop => ?_)
    cases hnode with
    | element hprops =>
      rcases hprops k v hprop with hplain | ⟨-, hasks, hname, hv⟩
      · rw [expandValue_of_plain hplain, expandValue_of_plain hplain]
      · cases v with
        | string text =>
          have hundecided : isUndecided scope (some (.string text)) = .ok false := by
            simpa only [isWaiting, hasks, hname, if_true] using hdecided
          simp only [expandValue, expandText, expand_decided hkept hundecided]
        | _ => exact absurd ⟨hasks, _, hname, hv, by simp⟩ hlist

/-- A tree with templates in the names of inputs only is read alike, whatever the relation bears beyond names that
    are no texts. -/
theorem alike_of_namesOnly {R : Trace → Trace → Prop} (hR : Lockstep R) {form : Value → Prop} {p : Site}
    (hs : s.registry = Registry.standard) (hkept : Fields.Kept p.scope.answers later)
    (hp : p.node.NamesOnly s.registry form)
    (hlist : ∀ v, form v → (∀ text, v ≠ .string text) → ∀ t u : Trace, t.inputs = [] → R t u) : Alike R s later p where
  texts {room scope template} hq sections := by
    cases hp.visits hs hq with
    | text h =>
      simp only [traceAt, nodeTrace, expand, Template.expand_of_not_marked _ h]
      exact hR.refl _
  elements {room scope tag props children} hq hdecided := by
    have hscope : Fields.Kept scope.answers later := answers_of_visits hq ▸ hkept
    refine (expandProps_named hscope (hp.visits hs hq) hdecided).imp_right ?_
    rintro ⟨hasks, v, hname, hform, hv⟩ sections
    exact hlist v hform hv _ _ (inputs_of_not_text hasks hname hv)

end Surroundings

/-! ### What a discovery asks for -/

/-- The first input of each name, if it has no answer; some names have been met before. -/
def opened (answers : Fields) : List String → List Requirement → List Requirement
  | _, [] => []
  | seen, r :: rs =>
    if seen.contains r.name then opened answers seen rs
    else if (Fields.get? r.name answers).isSome then opened answers (r.name :: seen) rs
    else r :: opened answers (r.name :: seen) rs

section Opened
variable {answers : Fields} {r : Requirement}

theorem opened_cons (seen : List String) (rs : List Requirement) : opened answers seen (r :: rs) =
    if seen.contains r.name then opened answers seen rs
    else if (Fields.get? r.name answers).isSome then opened answers (r.name :: seen) rs
    else r :: opened answers (r.name :: seen) rs := rfl

theorem mem_of_mem_opened : ∀ {rs : List Requirement} {seen : List String}, r ∈ opened answers seen rs → r ∈ rs
  | [], _, h => h
  | q :: rs, seen, h => by
    unfold opened at h
    split at h
    · exact List.mem_cons_of_mem q (mem_of_mem_opened h)
    · split at h
      · exact List.mem_cons_of_mem q (mem_of_mem_opened h)
      · rcases List.mem_cons.mp h with rfl | h
        · exact List.mem_cons_self
        · exact List.mem_cons_of_mem q (mem_of_mem_opened h)

/-- A name without an answer is asked for. -/
theorem name_mem_opened (hopen : Fields.get? r.name answers = none) : ∀ {rs : List Requirement} {seen : List String},
    r ∈ rs → r.name ∉ seen → r.name ∈ (opened answers seen rs).map (·.name)
  | q :: rs, seen, hr, hseen => by
    by_cases hname : q.name = r.name
    · simp [opened, hseen, hname, hopen]
    · have hrest : r ∈ rs := (List.mem_cons.mp hr).resolve_left fun heq => hname (heq ▸ rfl)
      have hnext : r.name ∉ q.name :: seen := by simp [hseen, Ne.symm hname]
      unfold opened
      split
      · exact name_mem_opened hopen hrest hseen
      · split
        · exact name_mem_opened hopen hrest hnext
        · exact List.mem_cons_of_mem _ (name_mem_opened hopen hrest hnext)

/-- Where no name stands twice, all inputs without an answer are asked for. -/
theorem opened_of_nodup : ∀ {rs : List Requirement} {seen : List String}, (rs.map (·.name)).Nodup →
    (∀ r ∈ rs, r.name ∉ seen) → opened answers seen rs = rs.filter fun r => (Fields.get? r.name answers).isNone
  | [], _, _, _ => rfl
  | q :: rs, seen, hnodup, hseen => by
    rw [List.map_cons, List.nodup_cons] at hnodup
    obtain ⟨hq, hseen⟩ := List.forall_mem_cons.mp hseen
    have hrest : opened answers (q.name :: seen) rs = rs.filter fun r => (Fields.get? r.name answers).isNone := by
      refine opened_of_nodup hnodup.2 fun r hr hmem => ?_
      rcases List.mem_cons.mp hmem with heq | hmem
      · exact hnodup.1 (List.mem_map.mpr ⟨r, hr, heq⟩)
      · exact hseen r hr hmem
    cases hv : Fields.get? q.name answers <;> simp [opened, hq, hv, hrest]

end Opened

namespace Mode
variable {answers : Fields}

theorem take_requirements (r : Requirement) (d : Draft) : (Mode.discovery.take answers r d).requirements =
    if d.seen.contains r.name ∨ (Fields.get? r.name answers).isSome then d.requirements else d.requirements ++ [r] := by
  unfold take
  by_cases hseen : d.seen.contains r.name = true
  · rw [if_pos hseen, if_pos (.inl hseen)]
    rfl
  · rw [if_neg hseen]
    simp only [answer, Scope.answer?]
    cases hv : Fields.get? r.name answers with
    | some v => rw [if_pos (.inr rfl)]; rfl
    | none => rw [if_neg (by simpa using hseen)]; rfl

theorem meet_requirements {desk : Desk} {event : Event} (h : event.input? = none) :
    (Mode.discovery.meet answers desk event).1.requirements = desk.1.requirements := by
  obtain ⟨d, outer⟩ := desk
  cases event with
  | input r => cases h
  | leave frame => cases outer <;> rfl
  | _ => rfl

/-- What a discovery notes is opened by the inputs that it plays. -/
theorem play_requirements : ∀ (events : List Event) (desk : Desk),
    (Mode.discovery.play answers events desk).1.requirements =
      desk.1.requirements ++ opened answers desk.1.seen (events.filterMap Event.input?)
  | [], _ => (List.append_nil _).symm
  | event :: events, desk => by
    have hrest := play_requirements events (Mode.discovery.meet answers desk event)
    cases hinput : event.input? with
    | none =>
      rw [meet_seen hinput, meet_requirements hinput] at hrest
      rw [List.filterMap_cons_none hinput]
      exact hrest
    | some r =>
      cases event_eq_input hinput
      have hseen : (Mode.discovery.meet answers desk (.input r)).1.seen = _ := take_seen r desk.1
      have hrequirements : (Mode.discovery.meet answers desk (.input r)).1.requirements = _ := take_requirements r desk.1
      rw [hseen, hrequirements] at hrest
      rw [List.filterMap_cons_some hinput, opened_cons]
      refine hrest.trans ?_
      by_cases hmet : desk.1.seen.contains r.name = true
      · simp only [hmet, true_or, if_true]
      · have hnew : r.name ∉ desk.1.seen := by simpa using hmet
        cases hv : Fields.get? r.name answers <;> simp [hnew]

end Mode

namespace Form
variable {f : Form} {answers later : Fields}

theorem requirements_eq (f : Form) (answers : Fields) :
    (f.discover answers).requirements = opened answers [] (f.trace answers).inputs := by
  rw [f.discover_eq]
  exact Mode.play_requirements _ _

theorem nodup_of_discover
    (h : ∀ name, .props (.duplicateInput name) ∉ (f.discover answers).errors) :
    ((f.trace answers).inputs.map (·.name)).Nodup := by
  rw [f.discover_eq] at h
  exact (Mode.nodup_of_play _ _ fun name hname => h name (List.mem_append_left _ hname)).1

variable {form : Value → Prop}

/-- Where templates stand in the names of inputs only, more answers take no input away. -/
theorem inputs_sublist (hf : f.registry = Registry.standard) (htree : f.tree.NamesOnly f.registry form)
    (hkept : Fields.Kept answers later) (hlater : (f.discover later).fatal? = none) :
    (f.trace answers).inputs.Sublist (f.trace later).inputs := by
  have halike : Alike Trace.Feeds f.surroundings later (f.root answers) :=
    Surroundings.alike_of_namesOnly Trace.feeds_lockstep hf hkept htree fun _ _ _ t u ht _ => by simp [ht]
  have hfeeds : Trace.Feeds (f.trace answers) (f.trace later) :=
    Surroundings.lockstep Trace.feeds_lockstep hkept halike 0
  exact hfeeds (fatal?_eq_none.mp hlater)

/-- What is asked for is answered later, or asked for later as well. -/
theorem asked_later (hf : f.registry = Registry.standard) (htree : f.tree.NamesOnly f.registry form)
    (hkept : Fields.Kept answers later) (hlater : (f.discover later).fatal? = none) :
    ∀ r ∈ (f.discover answers).requirements, (Fields.get? r.name later).isSome = true ∨
      r.name ∈ (f.discover later).requirements.map (·.name) := by
  intro r hr
  rw [requirements_eq] at hr ⊢
  cases hv : Fields.get? r.name later with
  | some v => exact .inl rfl
  | none =>
    have hmet : r ∈ (f.trace later).inputs := (inputs_sublist hf htree hkept hlater).subset (mem_of_mem_opened hr)
    exact .inr (name_mem_opened hv hmet List.not_mem_nil)

/-- Answering more hides and reorders no question where templates stand in the names of inputs only. If a discovery
    with more answers goes through, then what one with some of them asks for is answered later or asked for later as
    well; and where the later discovery meets no name twice, what is left to be answered is asked for there in the
    same order and in the same words. The earlier discovery goes through as well if the names are texts. -/
theorem discover_grows (hf : f.registry = Registry.standard) (htree : f.tree.NamesOnly f.registry form)
    (hkept : Fields.Kept answers later) (hlater : (f.discover later).fatal? = none) :
    ((∀ v, form v → ∃ text, v = .string text) → (f.discover answers).fatal? = none) ∧
    (∀ r ∈ (f.discover answers).requirements, (Fields.get? r.name later).isSome = true ∨
      r.name ∈ (f.discover later).requirements.map (·.name)) ∧
    ((∀ name, .props (.duplicateInput name) ∉ (f.discover later).errors) →
      ((f.discover answers).requirements.filter fun r => (Fields.get? r.name later).isNone).Sublist
        (f.discover later).requirements) := by
  refine ⟨fun htexts => ?_, asked_later hf htree hkept hlater, fun hdistinct => ?_⟩
  · have halike : Alike Trace.Spares f.surroundings later (f.root answers) :=
      Surroundings.alike_of_namesOnly Trace.spares_lockstep hf hkept htree fun v hv hlist => by
        obtain ⟨text, rfl⟩ := htexts v hv
        exact absurd rfl (hlist text)
    have hspares : Trace.Spares (f.trace answers) (f.trace later) :=
      Surroundings.lockstep Trace.spares_lockstep hkept halike 0
    exact fatal?_eq_none.mpr (hspares (fatal?_eq_none.mp hlater))
  · have hinputs := inputs_sublist hf htree hkept hlater
    have hnodup := nodup_of_discover hdistinct
    rw [requirements_eq, requirements_eq, opened_of_nodup hnodup (by simp),
      opened_of_nodup (hnodup.sublist (hinputs.map _)) (by simp), List.filter_filter]
    -- What is open with more answers is open with some of them.
    have hopen : ∀ r : Requirement, ((Fields.get? r.name later).isNone && (Fields.get? r.name answers).isNone) =
        (Fields.get? r.name later).isNone := fun r => by
      cases hv : Fields.get? r.name answers with
      | none => simp
      | some v => simp [hkept _ _ hv]
    simp only [hopen]
    exact hinputs.filter _

/-- A form in which the answer to one input names another. -/
def siteForm : Form where
  tree := .fragment [.element "Ask.Text" [("name", .string "site")] [],
    .element "Ask.Secret" [("name", .string "\x7b\x7b site \x7d\x7d_token")] [],
    .element "Ask.Text" [("name", .string "topic")] []]
  registry := Registry.standard
  ctx := confirmForm.ctx

theorem siteForm_namesOnly : siteForm.tree.NamesOnly siteForm.registry fun v => ∃ text, v = .string text := by
  have hask : ∀ tag name, siteForm.registry.asksInput tag = true →
      (Node.element tag [("name", .string name)] []).NamesOnly siteForm.registry fun v => ∃ text, v = .string text :=
    fun tag name hasks => .element
      (fun k v hprop => .inr (by cases List.mem_singleton.mp hprop; exact ⟨rfl, hasks, rfl, name, rfl⟩))
      (fun _ _ _ _ hprop => absurd hprop (by simp)) nofun
  refine .fragment (List.forall_mem_cons.mpr ⟨hask _ _ (by decide +kernel), List.forall_mem_cons.mpr ⟨?_, ?_⟩⟩)
  · exact hask _ _ (by decide +kernel)
  · exact List.forall_mem_singleton.mpr (hask _ _ (by decide +kernel))

/-- After the first answer the token is asked for in front of the topic, which was asked for before. -/
theorem discover_grows_site : (siteForm.discover [("site", .string "hub")]).fatal? = none ∧
    (siteForm.discover []).fatal? = none ∧
    ((siteForm.discover []).requirements.filter fun r => (Fields.get? r.name [("site", Value.string "hub")]).isNone).Sublist
      (siteForm.discover [("site", .string "hub")]).requirements := by
  have hlater : (siteForm.discover [("site", .string "hub")]).fatal? = none := by decide +kernel
  have hkept : Fields.Kept [] [("site", .string "hub")] := nofun
  obtain ⟨hnow, -, hsublist⟩ := discover_grows rfl siteForm_namesOnly hkept hlater
  have herrors : (siteForm.discover [("site", .string "hub")]).errors = [] := by decide +kernel
  exact ⟨hlater, hnow fun _ h => h, hsublist fun name hname => by simp [herrors] at hname⟩

/-- A form with an input whose name is a list. -/
def listForm : Form where
  tree := .element "Ask.Text" [("name", .list [.string "\x7b\x7b a.b \x7d\x7d"])] []
  registry := Registry.standard
  ctx := confirmForm.ctx

/-- Names that are lists do not wait for the names that they read, so that their templates stop a discovery that
    goes through with more answers. -/
theorem discover_stops_at_list : ¬∀ (f : Form) (answers later : Fields), f.registry = Registry.standard →
    f.tree.NamesOnly f.registry (fun _ => True) → Fields.Kept answers later → (f.discover later).fatal? = none →
    (f.discover answers).fatal? = none := by
  intro h
  have htree : listForm.tree.NamesOnly listForm.registry fun _ => True := .element
    (fun k v hprop => .inr (by cases List.mem_singleton.mp hprop; exact ⟨rfl, by decide +kernel, rfl, trivial⟩))
    (fun _ _ _ _ hprop => absurd hprop (by simp)) nofun
  have hlater : (listForm.discover [("a", .object [("b", .string "x")])]).fatal? = none := by decide +kernel
  have hstop : (listForm.discover []).fatal? ≠ none := by decide +kernel
  exact hstop (h listForm [] [("a", .object [("b", .string "x")])] rfl htree nofun hlater)

end Form
end PromptForm
