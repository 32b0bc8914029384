import PromptForm.Proofs.Pass.Context
import PromptForm.Proofs.Trace.Drafts
import PromptForm.Proofs.Tree.Elements
import PromptForm.Proofs.Tree.Places

/-! # Elements without a meaning

An element whose tag means nothing is left out and reported each time the walk comes to it, and that is all it does:
without it the walk meets the same events otherwise (`Node.Place.spoilt_put`). How often the walk comes to it is counted
along its place, through rounds that may come to it many times or never, and up to the end of the walk
(`Node.Place.arrivals`). Neither text nor inputs nor actions depend on the element, and no other error does
(`broken_isolated`). -/

namespace PromptForm

/-! ### What errors are about -/

/-- The tag of the element that the error is about. -/
def PropsError.tag? : PropsError → Option String
  | .unknownComponent tag | .invalidProps tag _ | .component tag _ | .depthExceeded tag _ => some tag
  | .duplicateInput _ => none

def RenderError.isAbout (tag : String) : RenderError → Bool
  | .props e => e.tag? == some tag
  | _ => false

/-- The error about a tag that an event leads to. -/
def Event.errorAbout? (tag : String) : Event → Option RenderError
  | .fault e => if e.tag? = some tag then some (.props e) else none
  | _ => none

theorem Registry.resolve_error {r : Registry} {tag : String} {props : Fields} {e : PropsError}
    (h : r.resolve tag props = .error e) : e.tag? = some tag := by
  unfold resolve at h
  split at h
  · cases h
    rfl
  · split at h <;> cases h
    rfl

namespace Component

/-- What is wrong with the declaration of an input is reported under the tag of its kind. -/
theorem requirement_error {c : Component} {props : Fields} {e : PropsError} (h : c.requirement props = .error e) :
    ∃ kind fault, e = .component (askTag kind) fault := by
  cases c with
  | ask kind =>
    simp only [requirement, askRequirement] at h
    split at h
    · cases h
      exact ⟨kind, _, rfl⟩
    · split at h <;> cases h
      exact ⟨kind, _, rfl⟩
  | _ => cases h

theorem addition_error {kind : DefaultKind} {input : RenderInput} {e : PropsError}
    (h : DefaultKind.addition kind input = .error e) : ∃ fault, e = .component input.tag fault := by
  unfold DefaultKind.addition at h
  split at h
  · cases h
  · split at h
    · split at h <;> cases h
      exact ⟨_, rfl⟩
    · cases h

theorem render_error {c : Component} {input : RenderInput} {ctx : Context} {e : PropsError}
    (h : c.render input ctx = .error e) : ∃ fault, e = .component input.tag fault := by
  cases c with
  | prompt =>
    obtain ⟨kind, hkind⟩ := exists_addition_error h
    exact addition_error hkind
  | dateTime =>
    simp only [render, renderDateTime] at h
    split at h <;> cases h
    exact ⟨_, rfl⟩
  | _ => cases h

end Component

/-! ### Trees without a tag -/

/-- No element has the tag, not even in the slots of a prompt. -/
def Node.Lacks (tag : String) : Node → Prop := Node.Every fun other _ => other ≠ tag

theorem Registry.standard_askTag (kind : InputKind) : standard.contains (Component.askTag kind) = true := by
  have hall : InputKind.all.all (fun kind => standard.contains (Component.askTag kind)) = true := by decide +kernel
  have hmem : kind ∈ InputKind.all := by cases kind <;> decide
  exact List.all_eq_true.mp hall kind hmem

section Lacking
variable {s : Surroundings} {tag : String}

/-- Components make no elements that mean nothing. -/
theorem Component.makes_of_unregistered (htag : Registry.standard.contains tag = false) :
    Component.Makes fun other _ => other ≠ tag := by
  have hmade : ∀ other ∈ "Step" :: madeTags, Registry.standard.contains other = true := by decide +kernel
  rintro other hother - rfl
  rw [hmade other hother] at htag
  cases htag

/-- In a tree that lacks a tag nothing is wrong with it. -/
theorem Node.Lacks.errorAbout? (hs : s.registry = Registry.standard) (htag : Registry.standard.contains tag = false)
    {p : Site} (hp : p.node.Lacks tag) {sections : Nat} {event : Event} (h : event ∈ (s.traceAt sections p).events) :
    event.errorAbout? tag = none := by
  cases event with
  | fault e =>
    obtain ⟨q, hvisits, hmeets⟩ := Surroundings.exists_meets h rfl
    have hq : q.node.Lacks tag := Node.Every.visits hs (Component.makes_of_unregistered htag) hp hvisits
    refine if_neg fun he => ?_
    cases hmeets with
    | depth => exact hq.of_element (Option.some.inj he)
    | refused _ hresolve => exact hq.of_element (Option.some.inj ((Registry.resolve_error hresolve).symm.trans he))
    | unrendered _ _ hrender =>
      obtain ⟨fault, rfl⟩ := Component.render_error hrender
      exact hq.of_element (Option.some.inj he)
    | misdeclared _ hask =>
      obtain ⟨kind, fault, rfl⟩ := Component.requirement_error hask
      cases he
      rw [Registry.standard_askTag] at htag
      cases htag
  | _ => rfl

end Lacking

/-! ### Walks that meet a fault again and again -/

/-- A walk meets what another one meets, and besides it so many times what leads to an error about a tag. -/
structure Trace.Spoilt (tag : String) (e : RenderError) (count : Nat) (t u : Trace) : Prop where
  halted : t.halted = u.halted
  events : t.events.filter (fun event => (event.errorAbout? tag).isNone) = u.events
  faults : t.events.filterMap (Event.errorAbout? tag) = List.replicate count e

namespace Trace.Spoilt
variable {tag : String} {e : RenderError} {k l : Nat} {t u t' u' : Trace}

/-- Nothing about the tag is met. -/
theorem of_clean (h : ∀ event ∈ t.events, event.errorAbout? tag = none) : Spoilt tag e 0 t t where
  halted := rfl
  events := List.filter_eq_self.mpr fun event hevent => by rw [h event hevent]; rfl
  faults := List.filterMap_eq_nil_iff.mpr h

theorem andThen (h : Spoilt tag e k t u) (h' : Spoilt tag e l t' u') :
    Spoilt tag e (if t.halted.isSome then k else k + l) (t.andThen t') (u.andThen u') := by
  unfold Trace.andThen
  rw [← h.halted]
  split
  · exact h
  · refine ⟨h'.halted, ?_, ?_⟩
    · rw [List.filter_append, h.events, h'.events]
    · rw [List.filterMap_append, h.faults, h'.faults, List.replicate_append_replicate]

theorem framedBy (h : Spoilt tag e k t u) (frame : Option Frame) : Spoilt tag e k (t.framedBy frame) (u.framedBy frame) := by
  cases frame with
  | none => exact h
  | some frame =>
    refine ⟨h.halted, ?_, ?_⟩
    · show (Event.enter :: (t.events ++ [.leave frame])).filter _ = Event.enter :: (u.events ++ [.leave frame])
      rw [List.filter_cons_of_pos rfl, List.filter_append, h.events]
      rfl
    · show (Event.enter :: (t.events ++ [.leave frame])).filterMap _ = _
      rw [List.filterMap_cons_none rfl, List.filterMap_append, h.faults]
      exact List.append_nil _

end Trace.Spoilt

/-- How often something is met in rounds until one of them ends the walk, given what each round meets and how often it
    comes to it. -/
def Trace.total : List (Trace × Nat) → Nat
  | [] => 0
  | (t, count) :: rounds => if t.halted.isSome then count else count + total rounds

theorem Trace.Spoilt.inTurn {tag : String} {e : RenderError} {α : Type} {step step' : α → Trace} {count : α → Nat} :
    ∀ {rounds : List α}, (∀ x ∈ rounds, Spoilt tag e (count x) (step x) (step' x)) →
      Spoilt tag e (Trace.total (rounds.map fun x => (step x, count x))) (.inTurn (rounds.map step))
        (.inTurn (rounds.map step'))
  | [], _ => .of_clean nofun
  | x :: _, h => (h x List.mem_cons_self).andThen (Spoilt.inTurn fun y hy => h y (List.mem_cons_of_mem x hy))

/-! ### A place in the walk -/

namespace Node.Place

/-- How often a walk comes to the node at a place. In each round over a layer it comes there as often as it does in the
    layers inside, unless what stands before ends the walk. -/
def arrivals (s : Surroundings) (n : Node) : Node.Place → Nat → Scope → Nat → Nat
  | [], _, _, _ => 1
  | layer :: place, room, scope, sections =>
    match layer.entered? s room scope sections with
    | none => 0
    | some e => Trace.total (e.scopes.map fun inner =>
      (e.round s (layer.around (put place n)) inner,
        if (e.round s layer.before inner).halted.isSome then 0 else arrivals s n place e.room inner e.sections))

end Node.Place

section Places
variable {s : Surroundings} {tag : String} {props : Fields} {children : List Node} {room : Nat} {scope : Scope}
  {sections : Nat}

theorem Layer.every_of_close {layer : Layer} {kind : String → Fields → Prop} {nodes : List Node}
    (h : (layer.close nodes).Every kind) : ∀ n ∈ nodes, n.Every kind := by
  obtain ⟨element?, before, after⟩ := layer
  cases element? with
  | none => exact h.of_fragment
  | some element => exact h.of_child

/-- What is wrong with an element whose tag means nothing, with so much room for elements where it stands. -/
def PropsError.ofUnregistered (tag : String) : Nat → PropsError
  | 0 => .depthExceeded tag maxDepth
  | _ + 1 => .unknownComponent tag

theorem PropsError.tag?_ofUnregistered (tag : String) (room : Nat) : (ofUnregistered tag room).tag? = some tag := by
  cases room <;> rfl

theorem Surroundings.elementTrace_unregistered (htag : s.registry.contains tag = false) (hplain : Fields.Plain props) :
    s.elementTrace room tag props children scope sections = .one (.fault (.ofUnregistered tag room)) := by
  have hnone : s.registry.handler? tag = none := by simpa [Registry.contains] using htag
  cases room with
  | zero => rfl
  | succ room => simp [elementTrace, isWaiting, Registry.asksInput, Registry.resolve, hnone, hplain.expandProps,
      PropsError.ofUnregistered]

/-- The rest of the tree lacks the tag, so that a walk over it meets what the walk over the whole meets, apart from the
    fault at each arrival. The induction is on the layers, the outermost first. -/
theorem Node.Place.spoilt_put (hs : s.registry = Registry.standard) (htag : Registry.standard.contains tag = false)
    (hplain : Fields.Plain props) (children : List Node) : ∀ (place : Node.Place), (place.put .empty).Lacks tag →
      ∀ (room : Nat) (scope : Scope) (sections : Nat), Trace.Spoilt tag (.props (.ofUnregistered tag (room - place.depth)))
        (place.arrivals s (.element tag props children) room scope sections)
        (s.traceAt sections ⟨room, scope, place.put (.element tag props children)⟩)
        (s.traceAt sections ⟨room, scope, place.put .empty⟩)
  | [], _, room, scope, sections => by
    have htrace : s.traceAt sections ⟨room, scope, .element tag props children⟩ =
        .one (.fault (.ofUnregistered tag room)) := Surroundings.elementTrace_unregistered (hs ▸ htag) hplain
    have hroom : room - depth [] = room := rfl
    show Trace.Spoilt tag _ 1 (s.traceAt sections ⟨room, scope, .element tag props children⟩) {}
    rw [htrace, hroom]
    constructor <;> simp [Trace.one, Event.errorAbout?, PropsError.tag?_ofUnregistered]
  | layer :: place, hlacks, room, scope, sections => by
    have hclean : ∀ (room : Nat) (scope : Scope) (sections : Nat) (n : Node), n.Lacks tag →
        ∀ event ∈ (s.traceAt sections ⟨room, scope, n⟩).events, event.errorAbout? tag = none :=
      fun _ _ _ _ hn _ hevent => hn.errorAbout? hs htag hevent
    have hnodes : ∀ n ∈ layer.around (put place .empty), n.Lacks tag := Layer.every_of_close hlacks
    obtain ⟨hbefore, hinner, hafter⟩ : (∀ n ∈ layer.before, n.Lacks tag) ∧ (put place .empty).Lacks tag ∧
        ∀ n ∈ layer.after, n.Lacks tag := by
      simpa only [Layer.around, List.forall_mem_append, List.forall_mem_cons] using hnodes
    show Trace.Spoilt tag _ _ (s.traceAt sections ⟨room, scope, layer.close (layer.around (put place _))⟩)
      (s.traceAt sections ⟨room, scope, layer.close (layer.around (put place .empty))⟩)
    -- A layer that is not entered meets the same whatever stands in it. In one that is entered each round
    -- meets what is before, at and after the place, and only what is at the place is spoilt.
    cases he : layer.entered? s room scope sections with
    | none =>
      rw [arrivals, he, Layer.traceAt_close_congr hs he _ (layer.around (put place .empty))]
      exact .of_clean (hclean room scope sections _ hlacks)
    | some e =>
      have hdepth : depth (layer :: place) = depth place + if layer.element?.isSome then 1 else 0 := List.countP_cons
      have hroom : room - depth (layer :: place) = e.room - depth place := by
        have := Layer.room_of_entered? he
        omega
      rw [arrivals, he, Layer.traceAt_close hs he, Layer.traceAt_close hs he, hroom]
      refine (Trace.Spoilt.inTurn fun inner _ => ?_).framedBy e.frame?
      have hput := spoilt_put hs htag hplain children place hinner e.room inner e.sections
      have hfirst : Trace.Spoilt tag (.props (.ofUnregistered tag (e.room - depth place))) 0 (e.round s layer.before inner)
          (e.round s layer.before inner) := .of_clean (hclean e.room inner e.sections (.fragment layer.before) (.fragment hbefore))
      have hlast : Trace.Spoilt tag (.props (.ofUnregistered tag (e.room - depth place))) 0 (e.round s layer.after inner)
          (e.round s layer.after inner) := .of_clean (hclean e.room inner e.sections (.fragment layer.after) (.fragment hafter))
      have hround : ∀ n, e.round s (layer.around (put place n)) inner = (e.round s layer.before inner).andThen
          ((s.traceAt e.sections ⟨e.room, inner, put place n⟩).andThen (e.round s layer.after inner)) := fun n =>
        Surroundings.nodesTrace_append _ _
      rw [hround, hround]
      have hall := hfirst.andThen (hput.andThen hlast)
      simpa using hall

end Places

/-! ### Drafts -/

/-- The draft without the errors about a tag. -/
def Draft.without (tag : String) (d : Draft) : Draft := { d with errors := d.errors.filter fun e => !e.isAbout tag }

/-- What ended a pass is about no tag. -/
theorem Draft.allErrors_about (tag : String) (d : Draft) :
    (d.without tag).allErrors = d.allErrors.filter (fun e => !e.isAbout tag) ∧
      d.allErrors.filter (·.isAbout tag) = d.errors.filter (·.isAbout tag) := by
  simp only [allErrors, List.filter_append, without]
  cases d.halted <;> simp [RenderError.isAbout]

namespace Mode
variable {mode : Mode} {answers : Fields} {tag : String}

/-- Errors about a tag come from faults about it. -/
theorem take_about (r : Requirement) (d : Draft) :
    (mode.take answers r d).errors.filter (·.isAbout tag) = d.errors.filter (·.isAbout tag) := by
  obtain ⟨text, rs, es, hmissing, hnew⟩ := mode.exists_take answers r
  by_cases hmet : r.name ∈ d.seen
  · rw [take_of_met hmet]
    simp [Draft.skip, Draft.report, RenderError.isAbout, PropsError.tag?]
  · have hes : es.filter (·.isAbout tag) = [] := List.filter_eq_nil_iff.mpr fun e he => by
      obtain ⟨name, rfl⟩ := hmissing e he
      exact Bool.false_ne_true
    rw [hnew d hmet, List.filter_append, hes, List.append_nil]

theorem meet_about (desk : Desk) (event : Event) : (mode.meet answers desk event).1.errors.filter (·.isAbout tag) =
    desk.1.errors.filter (·.isAbout tag) ++ (event.errorAbout? tag).toList := by
  obtain ⟨d, outer⟩ := desk
  cases event with
  | fault p =>
    by_cases hp : p.tag? = some tag <;>
      simp [meet, Draft.skip, Draft.report, Event.errorAbout?, RenderError.isAbout, hp]
  | input r => exact (take_about r d).trans (List.append_nil _).symm
  | leave frame => cases outer <;> exact (List.append_nil _).symm
  | _ => exact (List.append_nil _).symm

theorem take_without (r : Requirement) (d : Draft) :
    mode.take answers r (d.without tag) = (mode.take answers r d).without tag := by
  obtain ⟨text, rs, es, hmissing, hnew⟩ := mode.exists_take answers r
  by_cases hmet : r.name ∈ d.seen
  · have hmet' : r.name ∈ (d.without tag).seen := hmet
    rw [take_of_met hmet, take_of_met hmet']
    simp [Draft.without, Draft.skip, Draft.report, RenderError.isAbout, PropsError.tag?]
  · have hmet' : r.name ∉ (d.without tag).seen := hmet
    have hes : es.filter (fun e => !e.isAbout tag) = es := List.filter_eq_self.mpr fun e he => by
      obtain ⟨name, rfl⟩ := hmissing e he
      rfl
    rw [hnew d hmet, hnew _ hmet']
    simp [Draft.without, hes]

/-- Without the errors about a tag an event does the same, unless it is a fault about the tag. -/
theorem meet_without {event : Event} (h : event.errorAbout? tag = none) (desk : Desk) :
    mode.meet answers (desk.1.without tag, desk.2) event =
      ((mode.meet answers desk event).1.without tag, (mode.meet answers desk event).2) := by
  obtain ⟨d, outer⟩ := desk
  cases event with
  | fault p =>
    have hp : p.tag? ≠ some tag := fun hp => by simp [Event.errorAbout?, hp] at h
    simp [meet, Draft.without, Draft.skip, Draft.report, RenderError.isAbout, hp]
  | input r => exact congrArg (·, outer) (take_without r d)
  | leave frame => cases outer <;> rfl
  | _ => rfl

/-- A fault about the tag does nothing but report it. -/
theorem meet_fault_without {event : Event} {e : RenderError} (h : event.errorAbout? tag = some e) (desk : Desk) :
    ((mode.meet answers desk event).1.without tag, (mode.meet answers desk event).2) = (desk.1.without tag, desk.2) := by
  cases event with
  | fault p =>
    have hp : p.tag? = some tag := Classical.byContradiction fun hp => by simp [Event.errorAbout?, hp] at h
    simp [meet, Draft.without, Draft.skip, Draft.report, RenderError.isAbout, hp]
  | _ => cases h

theorem play_about (mode : Mode) (answers : Fields) (tag : String) : ∀ (events : List Event) (desk : Desk), (mode.play answers events desk).1.errors.filter (·.isAbout tag) =
    desk.1.errors.filter (·.isAbout tag) ++ events.filterMap (Event.errorAbout? tag)
  | [], _ => (List.append_nil _).symm
  | event :: events, desk => by
    have hrest := play_about mode answers tag events (mode.meet answers desk event)
    rw [meet_about, List.append_assoc] at hrest
    refine hrest.trans (congrArg _ ?_)
    cases hevent : event.errorAbout? tag <;> simp [hevent]

theorem play_without (mode : Mode) (answers : Fields) (tag : String) : ∀ (events : List Event) (desk : Desk),
    mode.play answers (events.filter fun event => (event.errorAbout? tag).isNone) (desk.1.without tag, desk.2) =
      ((mode.play answers events desk).1.without tag, (mode.play answers events desk).2)
  | [], _ => rfl
  | event :: events, desk => by
    have hrest := play_without mode answers tag events (mode.meet answers desk event)
    cases hevent : event.errorAbout? tag with
    | none =>
      rw [List.filter_cons_of_pos (by rw [hevent]; rfl)]
      refine Eq.trans ?_ hrest
      rw [← meet_without hevent desk]
      rfl
    | some e =>
      rw [List.filter_cons_of_neg (by rw [hevent]; exact Bool.false_ne_true)]
      refine Eq.trans ?_ hrest
      rw [meet_fault_without hevent desk]

/-- Of a spoilt walk a pass gathers the same and so many errors about the tag. -/
theorem gather_spoilt {e : RenderError} {count : Nat} {t u : Trace} (h : Trace.Spoilt tag e count t u) (mode : Mode)
    (answers : Fields) : mode.gather answers u = (mode.gather answers t).without tag ∧
      (mode.gather answers t).errors.filter (·.isAbout tag) = List.replicate count e := by
  have hplay := play_without mode answers tag t.events ({}, [])
  have habout := play_about mode answers tag t.events ({}, [])
  rw [h.events] at hplay
  rw [h.faults] at habout
  refine ⟨?_, habout⟩
  show ({ (mode.play answers u.events ({}, [])).1 with halted := u.halted } : Draft) = _
  rw [← h.halted, show mode.play answers u.events ({}, []) = _ from hplay]
  rfl

end Mode

/-! ### Passes -/

/-- A broken element never affects its siblings. Let fragments and intrinsic elements with anything in them stand around
    an element whose tag means nothing, occurs nowhere else in the tree, and whose props hold no template. The pass over
    the tree without the element has the same text, inputs and actions, and the same errors in the same order but those
    about the tag. There is one of these for each time the walk comes to the element. -/
theorem broken_isolated (ctx : Context) (mode : Mode) (answers : Fields) (place : Node.Place) (tag : String)
    (props : Fields) (children : List Node) (htag : Registry.standard.contains tag = false) (hplain : Fields.Plain props)
    (hlacks : (place.put .empty).Lacks tag) :
    let whole := Setting.run ⟨⟨.standard, ctx⟩, mode⟩ (place.put (.element tag props children)) answers
    let rest := Setting.run ⟨⟨.standard, ctx⟩, mode⟩ (place.put .empty) answers
    rest.text = whole.text ∧ rest.requirements = whole.requirements ∧ rest.actions = whole.actions ∧
      rest.allErrors = whole.allErrors.filter (fun e => !e.isAbout tag) ∧
      whole.allErrors.filter (·.isAbout tag) =
        List.replicate (place.arrivals ⟨.standard, ctx⟩ (.element tag props children) maxDepth ⟨answers, []⟩ 0)
          (.props (if place.depth < maxDepth then .unknownComponent tag else .depthExceeded tag maxDepth)) := by
  have hspoilt := place.spoilt_put (s := ⟨.standard, ctx⟩) rfl htag hplain children hlacks maxDepth ⟨answers, []⟩ 0
  obtain ⟨hrest, habout⟩ := Mode.gather_spoilt hspoilt mode answers
  obtain ⟨hothers, habouts⟩ := Draft.allErrors_about tag (mode.gather answers
    (Surroundings.trace ⟨.standard, ctx⟩ (place.put (.element tag props children)) answers))
  have hfault : PropsError.ofUnregistered tag (maxDepth - place.depth) =
      if place.depth < maxDepth then .unknownComponent tag else .depthExceeded tag maxDepth := by
    split
    · rename_i hlt
      obtain ⟨room, hroom⟩ := Nat.exists_eq_add_of_lt hlt
      rw [hroom, Nat.add_assoc, Nat.add_sub_cancel_left]
      rfl
    · rename_i hge
      rw [Nat.sub_eq_zero_of_le (Nat.not_lt.mp hge)]
      rfl
  simp only [Setting.run_eq_gather]
  rw [← hfault, show mode.gather answers (Surroundings.trace ⟨.standard, ctx⟩ (place.put .empty) answers) = _ from hrest]
  exact ⟨rfl, rfl, rfl, hothers, habouts.trans habout⟩

/-- A tag that means nothing, in the rounds of a loop and behind a condition, with inputs and actions beside it. -/
def loopPlace : Node.Place := [
  ⟨some (.loop, [("items", .string "names"), ("as", .string "name")]), [.text "\x7b\x7b name \x7d\x7d: "],
    [.element "Ask.Text" [("name", .string "topic")] []]⟩,
  ⟨some (.branch, [("when", .string "name != 'ann'")]), [], [.element "ReviewFile" [("file", .string "memo.md")] []]⟩]

theorem loopPlace_lacks : (loopPlace.put .empty).Lacks "Nothing" := by
  have haction : (Node.element "ReviewFile" [("file", .string "memo.md")] []).Lacks "Nothing" :=
    .of_not_prompt (by decide) (by decide) (List.forall_mem_nil _)
  have hbranch : (Node.element "If" [("when", .string "name != 'ann'")]
      [.empty, .element "ReviewFile" [("file", .string "memo.md")] []]).Lacks "Nothing" :=
    .of_not_prompt (by decide) (by decide) (List.forall_mem_cons.mpr ⟨.empty, List.forall_mem_singleton.mpr haction⟩)
  have hinput : (Node.element "Ask.Text" [("name", .string "topic")] []).Lacks "Nothing" :=
    .of_not_prompt (by decide) (by decide) (List.forall_mem_nil _)
  refine .of_not_prompt (by decide) (by decide) (List.forall_mem_cons.mpr ⟨.text _, ?_⟩)
  exact List.forall_mem_cons.mpr ⟨hbranch, List.forall_mem_singleton.mpr hinput⟩

/-- The walk comes to the tag in two of three rounds. -/
theorem broken_isolated_loop :
    let answers : Fields := [("names", .list [.string "ann", .string "bob", .string "eve"])]
    let whole := Setting.run ⟨⟨.standard, .bare⟩, .final⟩ (loopPlace.put (.element "Nothing" [] [])) answers
    let rest := Setting.run ⟨⟨.standard, .bare⟩, .final⟩ (loopPlace.put .empty) answers
    rest.text = whole.text ∧ rest.requirements = whole.requirements ∧ rest.actions = whole.actions ∧
      rest.allErrors = whole.allErrors.filter (fun e => !e.isAbout "Nothing") ∧
      whole.allErrors.filter (·.isAbout "Nothing") = List.replicate 2 (.props (.unknownComponent "Nothing")) := by
  intro answers whole rest
  have hisolated := broken_isolated .bare .final answers loopPlace "Nothing" [] [] (by decide +kernel)
    Fields.plain_nil loopPlace_lacks
  have harrivals : loopPlace.arrivals ⟨.standard, .bare⟩ (.element "Nothing" [] []) maxDepth ⟨answers, []⟩ 0 = 2 := by
    decide +kernel
  rw [harrivals] at hisolated
  exact hisolated

end PromptForm
