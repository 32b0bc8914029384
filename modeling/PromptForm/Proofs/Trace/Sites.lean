import PromptForm.Proofs.Trace.Basic
import PromptForm.Proofs.Locality.Scope

/-! # The sites of a walk

The sites of a walk are the nodes that it comes to, those among them that components stand for included
(`Surroundings.Enters`). What is met at an intrinsic element is what its children are for the scopes in which they
are walked, one after the other and in the frame of the element (`Surroundings.intrinsicTrace_eq`). Every input,
action and fault on a trace was met at one of the sites (`Surroundings.Meets`). So an invariant of the sites tells of what
kind a trace is (`Surroundings.Builds.trace`) and what is found on it (`Surroundings.finds`). -/

namespace PromptForm

/-! ### One trace after the other -/

namespace Trace

theorem andThen_nil (t : Trace) : t.andThen {} = t := by
  obtain ⟨events, halted⟩ := t
  cases halted <;> simp [andThen]

theorem andThen_assoc (t u v : Trace) : (t.andThen u).andThen v = t.andThen (u.andThen v) := by
  obtain ⟨events, halted⟩ := t
  obtain ⟨events', halted'⟩ := u
  cases halted <;> cases halted' <;> simp [andThen]

theorem andThen_of_running {t u : Trace} (h : t.halted = none) : t.andThen u = ⟨t.events ++ u.events, u.halted⟩ := by
  simp [andThen, h]

theorem andThen_of_halted {t u : Trace} (h : t.halted ≠ none) : t.andThen u = t :=
  if_pos (Option.isSome_iff_ne_none.mpr h)

theorem andThen_halted {t u : Trace} : (t.andThen u).halted = none ↔ t.halted = none ∧ u.halted = none := by
  unfold andThen
  cases h : t.halted <;> simp [h]

/-- What is met in turn until the walk ends. -/
def inTurn (ts : List Trace) : Trace := ts.foldr andThen {}

@[simp] theorem inTurn_nil : inTurn [] = {} := rfl

@[simp] theorem inTurn_cons (t : Trace) (ts : List Trace) : inTurn (t :: ts) = t.andThen (inTurn ts) := rfl

theorem inTurn_singleton (t : Trace) : inTurn [t] = t := andThen_nil t

/-- The trace in its frame, if it has one. -/
def framedBy : Option Frame → Trace → Trace
  | some frame, t => t.framed frame
  | none, t => t

theorem framedBy_halted (frame : Option Frame) (t : Trace) : (t.framedBy frame).halted = t.halted := by
  cases frame <;> rfl

end Trace

/-! ### Intrinsic elements -/

namespace Intrinsic

/-- Whether the props of a branch open it. -/
def opens (props : Fields) (scope : Scope) : Bool :=
  match Condition.ofValue ((Fields.get? "when" props).getD .null) with
  | .error _ => false
  | .ok condition => condition.references.all scope.isResolved && condition.holds scope

/-- The scopes in which an intrinsic element has its children walked. -/
def scopes (i : Intrinsic) (props : Fields) (scope : Scope) : List Scope :=
  match i with
  | .branch => if opens props scope then [scope] else []
  | .loop =>
    (loopItems scope (Fields.get? "items" props)).mapIdx
      (scope.inRound ((Fields.text? "as" props).getD "item") (Fields.text? "index" props))
  | .fragment | .section | .item => [scope]

/-- The sections around the children of an element inside so many sections. -/
def sectionsInside (i : Intrinsic) (sections : Nat) : Nat :=
  match i with
  | .section => sections + 1
  | _ => sections

/-- What is wrong with the condition of a branch. -/
def malformed? (i : Intrinsic) (props : Fields) : Option Malformed :=
  match i with
  | .branch =>
    match Condition.ofValue ((Fields.get? "when" props).getD .null) with
    | .error m => some m
    | .ok _ => none
  | _ => none

/-- An element has its children walked with the answers that it has itself. -/
theorem answers_of_scopes {i : Intrinsic} {props : Fields} {scope inner : Scope} (h : inner ∈ i.scopes props scope) :
    inner.answers = scope.answers := by
  cases i with
  | branch =>
    simp only [scopes] at h
    split at h
    · rw [List.mem_singleton.mp h]
    · cases h
  | loop =>
    obtain ⟨k, hk, rfl⟩ := List.mem_mapIdx.mp h
    exact Scope.answers_inRound scope _ _ k _
  | _ => rw [List.mem_singleton.mp h]

end Intrinsic

namespace Surroundings
variable {s : Surroundings} {scope : Scope} {sections : Nat}

/-- The frame around the children of an element. -/
def frame? (s : Surroundings) (i : Intrinsic) (props : Fields) (sections : Nat) : Option Frame :=
  match i with
  | .section => some (.section (s.sectionStyle props sections))
  | .item => some (.item s.ctx.indent.toList ((Fields.text? "marker" props).getD "-").toList)
  | .fragment | .branch | .loop => none

theorem nodesTrace_append {elements : ElementTrace} (ns ms : List Node) :
    s.nodesTrace elements scope sections (ns ++ ms) =
      (s.nodesTrace elements scope sections ns).andThen (s.nodesTrace elements scope sections ms) := by
  induction ns with
  | nil => rfl
  | cons n ns ih => simp only [List.cons_append, nodesTrace, ih, Trace.andThen_assoc]

theorem roundsTrace_eq {step : Scope → Trace} {binding : String} {index : Option String} :
    ∀ (items : List Value) (i : Nat), roundsTrace step scope binding index i items =
      .inTurn ((items.mapIdx fun k item => scope.inRound binding index (i + k) item).map step)
  | [], _ => rfl
  | item :: items, i => by
    rw [roundsTrace, roundsTrace_eq items (i + 1), List.mapIdx_cons, List.map_cons, Trace.inTurn_cons]
    simp only [Nat.add_zero, Nat.add_assoc, Nat.add_comm 1]

/-- A malformed condition ends the walk. Any other intrinsic element has its children walked in one scope after the
    other. -/
theorem intrinsicTrace_eq (children : Scope → Nat → Trace) (i : Intrinsic) (props : Fields) :
    s.intrinsicTrace children i props scope sections =
      match i.malformed? props with
      | some m => .stop m
      | none =>
        (Trace.inTurn ((i.scopes props scope).map fun inner => children inner (i.sectionsInside sections))).framedBy
          (s.frame? i props sections) := by
  cases i with
  | branch =>
    cases hread : Condition.ofValue ((Fields.get? "when" props).getD .null) with
    | error m => simp only [intrinsicTrace, branchTrace, Intrinsic.malformed?, hread]
    | ok condition =>
      simp only [intrinsicTrace, branchTrace, Intrinsic.malformed?, Intrinsic.scopes, Intrinsic.opens, hread]
      split
      · exact (Trace.inTurn_singleton _).symm
      · rfl
  | loop =>
    simp only [intrinsicTrace, roundsTrace_eq, Nat.zero_add]
    rfl
  | fragment => exact (Trace.inTurn_singleton _).symm
  | «section» | item => exact congrArg (Trace.framed _) (Trace.inTurn_singleton _).symm

/-! ### Sites -/

end Surroundings

/-- A node that a walk comes to, with its scope and the room for elements inside each other. -/
structure Site where
  room : Nat
  scope : Scope
  node : Node

namespace Surroundings
variable {s : Surroundings} {scope : Scope} {sections : Nat}

/-- A walk does not wait at an element and finds its handler, which gets the props with their templates expanded. -/
structure Handles (s : Surroundings) (tag : String) (props : Fields) (scope : Scope) (expanded : Fields) (h : Handler) :
    Prop where
  decided : s.isWaiting tag props scope = .ok false
  props : s.expandProps scope props = .ok expanded
  handler : s.registry.resolve tag expanded = .ok h

/-- From a site the walk goes on to another. -/
inductive Enters (s : Surroundings) : Site → Site → Prop where
  | member {room scope nodes n} (hn : n ∈ nodes) : Enters s ⟨room, scope, .fragment nodes⟩ ⟨room, scope, n⟩
  | child {room scope tag props children expanded i inner n} (h : s.Handles tag props scope expanded (.intrinsic i))
      (hinner : inner ∈ i.scopes expanded scope) (hn : n ∈ children) :
      Enters s ⟨room + 1, scope, .element tag props children⟩ ⟨room, inner, n⟩
  /-- The node that a component stands for. -/
  | expansion {room scope tag props children expanded c n} (h : s.Handles tag props scope expanded (.component c))
      (hask : c.requirement expanded = .ok none) (hrender : c.render ⟨tag, expanded, children, none⟩ s.ctx = .ok n) :
      Enters s ⟨room + 1, scope, .element tag props children⟩ ⟨room, scope, n⟩

/-- What a walk meets from a site on. -/
def traceAt (s : Surroundings) (sections : Nat) (p : Site) : Trace :=
  s.nodeTrace (s.elementTrace p.room) p.scope sections p.node

section Handled
variable {tag : String} {props expanded : Fields} {children : List Node}

theorem verdict_eq_handled {h : Handler} :
    s.verdict tag props scope = .handled expanded h ↔ s.Handles tag props scope expanded h :=
  Verdict.of_eq_handled.trans ⟨fun ⟨hdecided, hprops, hhandler⟩ => ⟨hdecided, hprops, hhandler⟩,
    fun h => ⟨h.decided, h.props, h.handler⟩⟩

theorem elementTrace_intrinsic {i : Intrinsic} (h : s.Handles tag props scope expanded (.intrinsic i)) (room : Nat) :
    s.elementTrace (room + 1) tag props children scope sections =
      s.intrinsicTrace (fun inner sections => s.nodesTrace (s.elementTrace room) inner sections children) i expanded
        scope sections := by
  rw [elementTrace_eq, verdict_eq_handled.mpr h]

theorem elementTrace_component {c : Component} (h : s.Handles tag props scope expanded (.component c)) (room : Nat) :
    s.elementTrace (room + 1) tag props children scope sections =
      s.componentTrace (s.nodeTrace (s.elementTrace room) scope sections) c tag expanded children := by
  rw [elementTrace_eq, verdict_eq_handled.mpr h]

end Handled
end Surroundings

namespace Setting
variable {s : Setting} {scope : Scope} {tag : String} {props expanded : Fields} {children : List Node}

theorem element_intrinsic {i : Intrinsic} (h : s.Handles tag props scope expanded (.intrinsic i)) (room sections : Nat)
    (d : Draft) : s.element (room + 1) tag props children scope sections d =
      s.intrinsic (fun inner sections => s.walkAll (s.element room) inner sections children) i expanded scope sections
        d := by
  rw [element_eq, Surroundings.verdict_eq_handled.mpr h]

theorem element_component {c : Component} (h : s.Handles tag props scope expanded (.component c)) (room sections : Nat)
    (d : Draft) : s.element (room + 1) tag props children scope sections d =
      s.component (s.walk (s.element room) scope sections) c tag expanded children scope d := by
  rw [element_eq, Surroundings.verdict_eq_handled.mpr h]

/-- The walk goes on with the node that a component stands for if the component neither asks nor acts, or notes the error. -/
theorem element_rendered {c : Component} (h : s.Handles tag props scope expanded (.component c))
    (hask : c.requirement expanded = .ok none) (haction : c.action? expanded s.ctx = none) (room sections : Nat)
    (d : Draft) : s.element (room + 1) tag props children scope sections d =
      match c.render ⟨tag, expanded, children, none⟩ s.ctx with
      | .ok n => s.walk (s.element room) scope sections n d
      | .error e => d.skip e := by
  rw [element_component h]
  cases hrender : c.render ⟨tag, expanded, children, none⟩ s.ctx with
  | ok n => simp [component, resolved, hask, haction, hrender]
  | error e => simp [component, resolved, hask, haction, hrender]

end Setting

namespace Surroundings

/-! ### Where events are met -/

/-- What an input, an action or a fault has to do with the site that it is met at. -/
inductive Meets (s : Surroundings) : Site → Event → Prop where
  | depth {scope tag props children} :
      Meets s ⟨0, scope, .element tag props children⟩ (.fault (.depthExceeded tag maxDepth))
  | refused {room scope tag props children expanded e} (hprops : s.expandProps scope props = .ok expanded)
      (h : s.registry.resolve tag expanded = .error e) :
      Meets s ⟨room + 1, scope, .element tag props children⟩ (.fault e)
  | misdeclared {room scope tag props children expanded c e} (h : s.Handles tag props scope expanded (.component c))
      (hask : c.requirement expanded = .error e) : Meets s ⟨room + 1, scope, .element tag props children⟩ (.fault e)
  | input {room scope tag props children expanded c r} (h : s.Handles tag props scope expanded (.component c))
      (hask : c.requirement expanded = .ok (some r)) : Meets s ⟨room + 1, scope, .element tag props children⟩ (.input r)
  | action {room scope tag props children expanded c a} (h : s.Handles tag props scope expanded (.component c))
      (hask : c.requirement expanded = .ok none) (ha : c.action? expanded s.ctx = some a) :
      Meets s ⟨room + 1, scope, .element tag props children⟩ (.action a)
  | unrendered {room scope tag props children expanded c e} (h : s.Handles tag props scope expanded (.component c))
      (hask : c.requirement expanded = .ok none) (hrender : c.render ⟨tag, expanded, children, none⟩ s.ctx = .error e) :
      Meets s ⟨room + 1, scope, .element tag props children⟩ (.fault e)

/-! ### What is made of them -/

/-- From a site where the invariant holds the walk goes on to such sites only, and traces of a certain kind are made of
    what it meets at them. -/
structure Builds (s : Surroundings) (inv : Site → Prop) (kind : Trace → Prop) : Prop where
  nothing : ∀ halted, kind ⟨[], halted⟩
  andThen : ∀ {t u}, kind t → kind u → kind (t.andThen u)
  enters : ∀ {p q}, inv p → s.Enters p q → inv q
  text : ∀ {room scope template text}, inv ⟨room, scope, .text template⟩ → s.expand scope template = .ok text →
    kind (.one (.text text.toList))
  literal : ∀ {room scope text}, inv ⟨room, scope, .literal text⟩ → kind (.one (.text text.toList))
  meets : ∀ {p e}, inv p → s.Meets p e → kind (.one e)
  framed : ∀ {room scope tag props children expanded i sections frame t},
    inv ⟨room + 1, scope, .element tag props children⟩ → s.Handles tag props scope expanded (.intrinsic i) →
    s.frame? i expanded sections = some frame → kind t → kind (t.framed frame)

namespace Builds
variable {s : Surroundings} {inv : Site → Prop} {kind : Trace → Prop} {room sections : Nat} {scope : Scope}

theorem inTurn (h : s.Builds inv kind) : ∀ {ts : List Trace}, (∀ t ∈ ts, kind t) → kind (Trace.inTurn ts)
  | [], _ => h.nothing none
  | _ :: _, hts => h.andThen (hts _ List.mem_cons_self) (h.inTurn fun t ht => hts t (List.mem_cons_of_mem _ ht))

mutual
theorem node (h : s.Builds inv kind) (helements : ∀ tag props children, inv ⟨room, scope, .element tag props children⟩ →
      kind (s.elementTrace room tag props children scope sections)) :
    ∀ n : Node, inv ⟨room, scope, n⟩ → kind (s.nodeTrace (s.elementTrace room) scope sections n)
  | .empty, _ => h.nothing none
  | .text _, hp => by
    unfold nodeTrace
    split
    · rename_i htext
      exact h.text hp htext
    · exact h.nothing _
  | .literal _, hp => h.literal hp
  | .fragment nodes, hp => node_list h helements nodes fun _ hn => h.enters hp (.member hn)
  | .element tag props children, hp => helements tag props children hp
termination_by structural n => n
theorem node_list (h : s.Builds inv kind) (helements : ∀ tag props children, inv ⟨room, scope, .element tag props children⟩ →
      kind (s.elementTrace room tag props children scope sections)) :
    ∀ ns : List Node, (∀ n ∈ ns, inv ⟨room, scope, n⟩) → kind (s.nodesTrace (s.elementTrace room) scope sections ns)
  | [], _ => h.nothing none
  | n :: ns, hns => h.andThen (node h helements n (hns n List.mem_cons_self))
      (node_list h helements ns fun m hm => hns m (List.mem_cons_of_mem n hm))
termination_by structural ns => ns
end

theorem component (h : s.Builds inv kind) {tag : String} {props expanded : Fields} {children : List Node}
    {node : Node → Trace} {c : Component} (hp : inv ⟨room + 1, scope, .element tag props children⟩)
    (hhandles : s.Handles tag props scope expanded (.component c)) (hnode : ∀ n, inv ⟨room, scope, n⟩ → kind (node n)) :
    kind (s.componentTrace node c tag expanded children) := by
  unfold componentTrace
  split
  · rename_i hask
    exact h.meets hp (.misdeclared hhandles hask)
  · rename_i hask
    exact h.meets hp (.input hhandles hask)
  · rename_i hask
    refine h.andThen ?_ ?_
    · cases ha : c.action? expanded s.ctx with
      | none => exact h.nothing none
      | some a => exact h.meets hp (.action hhandles hask ha)
    · split
      · rename_i n hrender
        exact hnode n (h.enters hp (.expansion hhandles hask hrender))
      · rename_i hrender
        exact h.meets hp (.unrendered hhandles hask hrender)

theorem intrinsic (h : s.Builds inv kind) {tag : String} {props expanded : Fields} {children : List Node} {i : Intrinsic}
    {walk : Scope → Nat → Trace} (hp : inv ⟨room + 1, scope, .element tag props children⟩)
    (hhandles : s.Handles tag props scope expanded (.intrinsic i))
    (hwalk : ∀ inner sections, inner ∈ i.scopes expanded scope → kind (walk inner sections)) :
    kind (s.intrinsicTrace walk i expanded scope sections) := by
  rw [intrinsicTrace_eq]
  split
  · exact h.nothing _
  · have hbody : kind (Trace.inTurn ((i.scopes expanded scope).map fun inner => walk inner (i.sectionsInside sections))) :=
      h.inTurn fun t ht => by
        obtain ⟨inner, hinner, rfl⟩ := List.mem_map.mp ht
        exact hwalk inner _ hinner
    cases hframe : s.frame? i expanded sections with
    | none => exact hbody
    | some frame => exact h.framed hp hhandles hframe hbody

/-- The induction is on the room that is left for elements inside each other. -/
theorem element (h : s.Builds inv kind) : ∀ (room : Nat) (tag : String) (props : Fields) (children : List Node)
    (scope : Scope) (sections : Nat), inv ⟨room, scope, .element tag props children⟩ →
      kind (s.elementTrace room tag props children scope sections)
  | 0, _, _, _, _, _, hp => h.meets hp .depth
  | room + 1, tag, props, children, scope, sections, hp => by
    rw [elementTrace_eq]
    split
    · exact h.nothing _
    · exact h.nothing _
    · rename_i hrefused
      obtain ⟨-, hexpanded, hresolve⟩ := Verdict.of_eq_refused.mp hrefused
      exact h.meets hp (.refused hexpanded hresolve)
    · rename_i expanded i hverdict
      have hhandles := verdict_eq_handled.mp hverdict
      refine h.intrinsic hp hhandles fun inner sections hinner => ?_
      refine h.node_list (fun tag props children => h.element room tag props children inner sections) children ?_
      exact fun n hn => h.enters hp (.child hhandles hinner hn)
    · rename_i expanded c hverdict
      exact h.component hp (verdict_eq_handled.mp hverdict)
        (h.node fun tag props children => h.element room tag props children scope sections)

/-- What is met from a site on is of the kind. -/
theorem trace (h : s.Builds inv kind) {p : Site} (hp : inv p) (sections : Nat) : kind (s.traceAt sections p) :=
  h.node (fun tag props children => h.element p.room tag props children p.scope sections) p.node hp

end Builds
end Surroundings

/-! ### Findings -/

/-- Whether an event is more than text and its frames. -/
def Event.isFinding : Event → Bool
  | .fault _ | .input _ | .action _ => true
  | .text _ | .enter | .leave _ => false

/-- All that is found on a trace is of a certain kind. -/
def Trace.Finds (kind : Event → Prop) (t : Trace) : Prop := ∀ e ∈ t.events, e.isFinding = true → kind e

namespace Trace.Finds
variable {kind : Event → Prop} {t u : Trace}

theorem one {e : Event} (h : e.isFinding = true → kind e) : (one e).Finds kind := fun _ he =>
  List.mem_singleton.mp he ▸ h

theorem andThen (ht : t.Finds kind) (hu : u.Finds kind) : (t.andThen u).Finds kind := by
  unfold Trace.andThen
  split
  · exact ht
  · exact fun e he => (List.mem_append.mp he).elim (ht e) (hu e)

theorem framed (ht : t.Finds kind) (frame : Frame) : (t.framed frame).Finds kind := by
  intro e he hfinding
  simp only [Trace.framed, List.mem_cons, List.mem_append, List.mem_nil_iff, or_false] at he
  rcases he with rfl | he | rfl
  · cases hfinding
  · exact ht e he hfinding
  · cases hfinding

end Trace.Finds

namespace Surroundings
variable {s : Surroundings} {inv : Site → Prop} {kind : Event → Prop}

/-- From a site where the invariant holds the walk goes on to such sites only, and all that it meets at them is of a
    certain kind. -/
structure Keeps (s : Surroundings) (inv : Site → Prop) (kind : Event → Prop) : Prop where
  enters : ∀ {p q}, inv p → s.Enters p q → inv q
  meets : ∀ {p e}, inv p → s.Meets p e → kind e

theorem Keeps.builds (h : s.Keeps inv kind) : s.Builds inv (Trace.Finds kind) where
  nothing _ := nofun
  andThen := .andThen
  enters := h.enters
  text _ _ := .one nofun
  literal _ := .one nofun
  meets hp hmeets := .one fun _ => h.meets hp hmeets
  framed _ _ _ ht := ht.framed _

/-- All that is found from a site on is of the kind. -/
theorem finds (h : s.Keeps inv kind) {p : Site} (hp : inv p) (sections : Nat) : (s.traceAt sections p).Finds kind :=
  h.builds.trace hp sections

end Surroundings
end PromptForm
