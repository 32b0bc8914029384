import PromptForm.Proofs.Pass.Context
import PromptForm.Proofs.Trace.Drafts
import PromptForm.Proofs.Tree.Places

/-! # Where a condition cannot be read

A condition that cannot be read ends the walk at the branch where it stands. On the way out the frames around it are
left as they would be at their ends, so that what has been met in them is kept, and nothing beside the branch or beside
the frames is walked any more. The pass therefore gathers what it gathers over the tree cut off at the branch, and the
condition is the last error that it reports (`malformed_truncates`). -/

namespace PromptForm

/-! ### Traces that end -/

namespace Trace

/-- What is met until a malformed expression ends the walk. -/
def endingWith (m : Malformed) (t : Trace) : Trace := { t with halted := some m }

theorem andThen_endingWith {t u : Trace} {m : Malformed} (ht : t.halted = none) :
    t.andThen (u.endingWith m) = (t.andThen u).endingWith m := by
  rw [andThen_of_running ht, andThen_of_running ht]
  rfl

theorem endingWith_andThen (m : Malformed) (t u : Trace) : (t.endingWith m).andThen u = t.endingWith m :=
  andThen_of_halted nofun

/-- The frame is left at the end. -/
theorem framedBy_endingWith (m : Malformed) (frame : Option Frame) (t : Trace) :
    (t.endingWith m).framedBy frame = (t.framedBy frame).endingWith m := by
  cases frame <;> rfl

end Trace

/-! ### Frames around a place -/

/-- A fragment, or an element that puts its children into a frame or into nothing at all: its props fit and hold no
    template. -/
def Layer.isFrame (layer : Layer) : Prop := ∀ i props, layer.element? = some (i, props) →
  i ∈ [Intrinsic.section, .item, .fragment] ∧ Fields.Plain props ∧ i.schema.violations (.object props) = []

section Frames
variable {s : Surroundings} {layer : Layer} {scope : Scope} {sections : Nat}

/-- A walk enters a frame if there is room for it, and walks what is in it once. -/
theorem Layer.isFrame.exists_entry (h : layer.isFrame) (s : Surroundings) (scope : Scope) (sections : Nat) {room : Nat}
    (hroom : (if layer.element?.isSome then 1 else 0) ≤ room) :
    ∃ e, layer.entered? s room scope sections = some e ∧ e.scopes = [scope] := by
  obtain ⟨element?, before, after⟩ := layer
  cases element? with
  | none => exact ⟨_, rfl, rfl⟩
  | some element =>
    obtain ⟨i, props⟩ := element
    obtain ⟨hi, hplain, hfits⟩ := h i props rfl
    obtain ⟨room, rfl⟩ := Nat.exists_eq_add_of_le' hroom
    have hscopes : i.scopes props scope = [scope] ∧ i.malformed? props = none := by
      simp only [List.mem_cons, List.not_mem_nil, or_false] at hi
      obtain rfl | rfl | rfl := hi <;> exact ⟨rfl, rfl⟩
    refine ⟨⟨room, i.sectionsInside sections, [scope], s.frame? i props sections⟩, ?_, rfl⟩
    simp [entered?, hplain.expandProps, hfits, hscopes]

theorem Entry.trace_singleton {e : Entry} (h : e.scopes = [scope]) (nodes : List Node) :
    e.trace s nodes = (s.nodesTrace (s.elementTrace e.room) scope e.sections nodes).framedBy e.frame? := by
  rw [trace, h]
  exact congrArg (Trace.framedBy _) (Trace.inTurn_singleton _)

namespace Node.Place

/-- The nodes in the innermost layer that are left of a tree that is cut off. -/
theorem nodesTrace_cut (elements : ElementTrace) (place : Node.Place) (nodes : List Node) :
    s.nodesTrace elements scope sections (nodes ++ if place.isEmpty then [] else [place.cut]) =
      (s.nodesTrace elements scope sections nodes).andThen (s.nodeTrace elements scope sections place.cut) := by
  rw [Surroundings.nodesTrace_append]
  cases place with
  | nil => rfl
  | cons layer place => exact congrArg (Trace.andThen _) (Trace.andThen_nil _)

/-- A node that ends the walk ends it in the frames around it. The induction is on the frames, the outermost first. -/
theorem traceAt_put (hs : s.registry = Registry.standard) {n : Node} {m : Malformed}
    (hn : ∀ room scope sections, s.traceAt sections ⟨room + 1, scope, n⟩ = .stop m) :
    ∀ (place : Node.Place), (∀ layer ∈ place, layer.isFrame) → ∀ (room : Nat) (scope : Scope) (sections : Nat),
      place.depth < room → (s.traceAt sections ⟨room, scope, place.cut⟩).halted = none →
        s.traceAt sections ⟨room, scope, place.put n⟩ = (s.traceAt sections ⟨room, scope, place.cut⟩).endingWith m
  | [], _, room, scope, sections, hroom, _ => by
    obtain ⟨room, rfl⟩ := Nat.exists_eq_add_of_lt hroom
    exact hn _ scope sections
  | layer :: place, hframes, room, scope, sections, hroom, hrunning => by
    obtain ⟨hlayer, hplace⟩ := List.forall_mem_cons.mp hframes
    have hdepth : depth (layer :: place) = depth place + if layer.element?.isSome then 1 else 0 := List.countP_cons
    rw [hdepth] at hroom
    obtain ⟨e, he, hscopes⟩ := hlayer.exists_entry s scope sections (Nat.le_of_add_left_le (Nat.le_of_lt hroom))
    have hinner := Layer.room_of_entered? he
    have htrace : ∀ nodes, s.traceAt sections ⟨room, scope, layer.close nodes⟩ =
        (s.nodesTrace (s.elementTrace e.room) scope e.sections nodes).framedBy e.frame? := fun nodes =>
      (Layer.traceAt_close hs he nodes).trans (Entry.trace_singleton hscopes nodes)
    show s.traceAt sections ⟨room, scope, layer.close (layer.around (put place n))⟩ = _
    rw [cut, htrace, nodesTrace_cut, Trace.framedBy_halted, Trace.andThen_halted] at hrunning
    rw [cut, htrace, htrace, nodesTrace_cut, Layer.around, Surroundings.nodesTrace_append, ← Trace.framedBy_endingWith]
    -- The walk does not end before the place, since it does not end in the tree that is cut there.
    have hput := traceAt_put hs hn place hplace e.room scope e.sections (by omega) hrunning.2
    rw [← Trace.andThen_endingWith hrunning.1]
    refine congrArg (Trace.framedBy _) (congrArg (Trace.andThen _) ?_)
    show (s.traceAt e.sections ⟨e.room, scope, put place n⟩).andThen _ = _
    rw [hput]
    exact Trace.endingWith_andThen m _ _

end Node.Place
end Frames

/-! ### Passes -/

/-- A branch whose condition cannot be read ends the walk. -/
theorem Surroundings.traceAt_malformed {s : Surroundings} (hs : s.registry = Registry.standard) {raw : String}
    {children : List Node} {m : Malformed} (hplain : Template.isMarked raw = false) (hm : Condition.ofText raw = .error m)
    (room : Nat) (scope : Scope) (sections : Nat) :
    s.traceAt sections ⟨room + 1, scope, .element "If" [("when", .string raw)] children⟩ = .stop m := by
  have hprops : Fields.Plain [("when", .string raw)] := Fields.Plain.cons (Value.plain_string.mpr hplain) Fields.plain_nil
  have hfits : Intrinsic.branch.schema.violations (.object [("when", .string raw)]) = [] := by
    simp [Intrinsic.schema, Schema.closedObject, Schema.violations, Schema.violationsOfAll, Schema.violationsOfKnown,
      Fields.get?, Schema.hasType, Fields.has]
  have hmalformed : Intrinsic.branch.malformed? [("when", .string raw)] = some m := by
    simp [Intrinsic.malformed?, Fields.get?, Condition.ofValue, hm]
  have hhandles : s.Handles Intrinsic.branch.tag [("when", .string raw)] scope [("when", .string raw)] (.intrinsic .branch) :=
    handles_intrinsic hs hprops.expandProps hfits
  show s.elementTrace (room + 1) Intrinsic.branch.tag [("when", .string raw)] children scope sections = _
  rw [elementTrace_intrinsic hhandles, intrinsicTrace_eq, hmalformed]

/-- At most the last error of a pass is fatal. -/
theorem Setting.harmless_but_last (s : Setting) (tree : Node) (answers : Fields) :
    ∀ e ∈ (s.run tree answers).allErrors.dropLast, e.isFatal = false := by
  have hgathered := s.mode.gather_harmless answers (s.trace tree answers)
  rw [s.run_eq_gather, Draft.allErrors]
  intro e he
  cases hend : (s.mode.gather answers (s.trace tree answers)).halted with
  | none =>
    rw [hend] at he
    simp only [Option.map_none, Option.toList_none, List.append_nil] at he
    exact hgathered e ((List.dropLast_sublist _).subset he)
  | some m =>
    rw [hend] at he
    simp only [Option.map_some, Option.toList_some, List.dropLast_concat] at he
    exact hgathered e he

/-- A malformed condition truncates the document where it stands. At most one error of a pass is fatal, and it is the
    last one. Around a branch whose condition is no template and cannot be read there may be any number of frames, with
    anything beside them and beside the branch. If the tree cut off at the branch has no fatal error, then the pass over
    the whole tree has the text, the inputs and the actions of the pass over the tree cut off, and its errors with the
    one more. -/
theorem malformed_truncates :
    (∀ (s : Setting) (tree : Node) (answers : Fields),
      ∀ e ∈ (s.run tree answers).allErrors.dropLast, e.isFatal = false) ∧
    ∀ (ctx : Context) (mode : Mode) (answers : Fields) (place : Node.Place) (raw : String) (children : List Node)
      (m : Malformed), (∀ layer ∈ place, layer.isFrame) → place.depth < maxDepth → Template.isMarked raw = false →
      Condition.ofText raw = .error m →
      let whole := Setting.run ⟨⟨.standard, ctx⟩, mode⟩ (place.put (.element "If" [("when", .string raw)] children)) answers
      let kept := Setting.run ⟨⟨.standard, ctx⟩, mode⟩ place.cut answers
      (∀ e ∈ kept.allErrors, e.isFatal = false) →
        whole.text = kept.text ∧ whole.requirements = kept.requirements ∧ whole.actions = kept.actions ∧
          whole.allErrors = kept.allErrors ++ [.malformed m] := by
  refine ⟨Setting.harmless_but_last, fun ctx mode answers place raw children m hframes hdepth hplain hm => ?_⟩
  simp only [Setting.run_eq_gather]
  intro hkept
  have hrunning : (Surroundings.trace ⟨.standard, ctx⟩ place.cut answers).halted = none := (mode.harmless_iff answers).mp hkept
  have htrace : Surroundings.trace ⟨.standard, ctx⟩ (place.put (.element "If" [("when", .string raw)] children)) answers =
      (Surroundings.trace ⟨.standard, ctx⟩ place.cut answers).endingWith m :=
    place.traceAt_put rfl (Surroundings.traceAt_malformed rfl hplain hm) hframes maxDepth ⟨answers, []⟩ 0 hdepth hrunning
  have hgoes : (mode.gather answers (Surroundings.trace ⟨.standard, ctx⟩ place.cut answers)).halted = none := hrunning
  rw [htrace]
  refine ⟨rfl, rfl, rfl, ?_⟩
  rw [Draft.allErrors, Draft.allErrors, hgoes, Option.map_none, Option.toList_none, List.append_nil]
  rfl

/-- A malformed condition in an item of a section, with text on all sides. -/
def brokenPlace : Node.Place := [
  ⟨some (.section, [("name", .string "notes")]), [.element "Nothing" [] []], [.text "after the section"]⟩,
  ⟨none, [.text "before"], [.text "after"]⟩,
  ⟨some (.item, []), [.text "in front", .element "Ask.Text" [("name", .string "topic")] []],
    [.element "ReviewFile" [("file", .string "memo.md")] []]⟩]

theorem brokenPlace_frames : ∀ layer ∈ brokenPlace, layer.isFrame := by
  have hsection : Fields.Plain [("name", .string "notes")] :=
    Fields.Plain.cons (Value.plain_string.mpr (by decide +kernel)) Fields.plain_nil
  refine List.forall_mem_cons.mpr ⟨?_, List.forall_mem_cons.mpr ⟨nofun, List.forall_mem_singleton.mpr ?_⟩⟩
  · rintro i props ⟨⟩
    exact ⟨by decide, hsection, by decide +kernel⟩
  · rintro i props ⟨⟩
    exact ⟨by decide, Fields.plain_nil, by decide +kernel⟩

/-- What stands in front of the condition is kept in its item and its section, and two errors come before the last. -/
theorem malformed_truncates_item :
    let m : Malformed := ⟨"topic ==", 8, .condition .endOfText⟩
    let whole := Setting.run ⟨⟨.standard, .bare⟩, .final⟩
      (brokenPlace.put (.element "If" [("when", .string "topic ==")] [.text "inside"])) []
    let kept := Setting.run ⟨⟨.standard, .bare⟩, .final⟩ brokenPlace.cut []
    Condition.ofText "topic ==" = .error m ∧
      kept.allErrors = [.props (.unknownComponent "Nothing"), .missingInput "topic"] ∧
      whole.text = kept.text ∧ whole.requirements = kept.requirements ∧ whole.actions = kept.actions ∧
      whole.allErrors = kept.allErrors ++ [.malformed m] ∧
      ∀ e ∈ whole.allErrors.dropLast, e.isFatal = false := by
  intro m whole kept
  have hread : Condition.ofText "topic ==" = .error m := rfl
  have hkept : kept.allErrors = [.props (.unknownComponent "Nothing"), .missingInput "topic"] := by decide +kernel
  have hharmless : ∀ e ∈ kept.allErrors, e.isFatal = false := by
    rw [hkept]
    decide
  obtain ⟨hlast, hcut⟩ := malformed_truncates
  obtain ⟨htext, hrequirements, hactions, herrors⟩ := hcut .bare .final [] brokenPlace "topic ==" [.text "inside"] m
    brokenPlace_frames (by decide) (by decide +kernel) hread hharmless
  exact ⟨hread, hkept, htext, hrequirements, hactions, herrors, hlast _ _ _⟩

end PromptForm
