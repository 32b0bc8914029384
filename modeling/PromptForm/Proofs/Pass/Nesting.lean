import PromptForm.Proofs.Output.Names
import PromptForm.Proofs.Pass.Context
import PromptForm.Proofs.Trace.Drafts
import PromptForm.Proofs.Trace.Inputs
import PromptForm.Proofs.Tree.AngleFree

/-! # Sections are well nested

Where no angle stands in a tree, its context and its answers, the only marks of a rendering are those of its sections.
Whatever a walk meets from a site on adds a text with its marks in order (`Trace.Ordered`): texts and inputs add none, and
sections and items keep those of their bodies. So the marks of the rendering are well nested, also where the walk ended
early (`sections_well_nested`). -/

namespace PromptForm

open Output (AngleFree Neutral isWellNested)

/-! ### Frames -/

/-- What the frame makes of a body has its marks in order if the body has. -/
def Frame.Keeps (frame : Frame) : Prop := ∀ out body, Neutral body → Neutral (frame.place out body)

namespace Surroundings
variable {s : Surroundings} {scope : Scope} {tag : String} {props : Fields} {children : List Node} {i : Intrinsic}

theorem sectionStyle_keeps {sections : Nat} (hfits : Intrinsic.section.schema.violations (.object props) = [])
    (hprops : ∀ k v, (k, v) ∈ props → v.isAngleFree = true) : (Frame.section (s.sectionStyle props sections)).Keeps := by
  intro out body hbody
  have hname := Intrinsic.section_name hfits
  refine Output.sectionText_neutral (Output.isMarkName_of_name hname) ?_ hbody
  show AngleFree (((Fields.text? "title" props).map (·.toList)).getD _)
  cases htitle : Fields.text? "title" props with
  | none => exact Output.titleOf_angleFree hname
  | some title => exact Value.isAngleFree_string.mp (hprops _ _ (Fields.mem_of_text? htitle))

theorem frame_keeps (hs : s.registry = Registry.standard) (hctx : s.ctx.AngleFree)
    (hp : (Node.element tag props children).AngleFree) (h : s.Handles tag props scope props (.intrinsic i)) {sections : Nat}
    {frame : Frame} (hframe : s.frame? i props sections = some frame) : frame.Keeps := by
  have htag : tag = i.tag := Registry.standard_intrinsic (hs ▸ Registry.handler?_of_resolve h.handler)
  subst htag
  cases i with
  | fragment | branch | loop => cases hframe
  | «section» =>
    cases hframe
    exact sectionStyle_keeps (Registry.resolve_fits h.handler) fun k v => hp.of_prop (by decide)
  | item =>
    cases hframe
    have hmarker : AngleFree ((Fields.text? "marker" props).getD "-").toList := by
      cases hgiven : Fields.text? "marker" props with
      | none => exact (by decide : AngleFree "-".toList)
      | some marker => exact Value.isAngleFree_string.mp (hp.of_prop (by decide) (Fields.mem_of_text? hgiven))
    exact fun out body hbody => Output.itemText_neutral hctx.indent hmarker out hbody

end Surroundings

/-! ### Inputs -/

theorem InputKind.emptyValue_angleFree (kind : InputKind) : kind.emptyValue.isAngleFree = true := by
  cases kind <;> decide

/-- An input prints its answer or what stands in for it. -/
theorem Mode.take_angleFree {answers : Fields} {r : Requirement} (hanswers : Value.fieldsAngleFree answers = true)
    (hdefault : ∀ v, r.default = some v → v.isAngleFree = true) (d : Draft) :
    ∃ cs, (Mode.final.take answers r d).text = d.text ++ cs ∧ AngleFree cs := by
  have hdisplay : ∀ v : Value, v.isAngleFree = true → AngleFree v.display.toList := Value.display_angleFree
  by_cases hmet : r.name ∈ d.seen
  · rw [take_of_met hmet]
    exact ⟨[], (List.append_nil _).symm, .nil⟩
  · cases hv : Scope.answer? ⟨answers, []⟩ r.name with
    | some v =>
      refine ⟨v.display.toList, by simp [take, hmet, answer, hv, Draft.write], hdisplay v ?_⟩
      exact Value.isAngleFree_of_mem hanswers (Fields.mem_of_get? hv)
    | none =>
      cases hstand : r.default with
      | some v =>
        exact ⟨v.display.toList, by simp [take, hmet, answer, hv, substitute, hstand, Draft.write], hdisplay v (hdefault v hstand)⟩
      | none =>
        cases hrequired : r.required with
        | true =>
          exact ⟨[], by simp [take, hmet, answer, hv, substitute, hstand, hrequired, Draft.report, Draft.write], .nil⟩
        | false =>
          refine ⟨r.kind.emptyValue.display.toList, ?_, hdisplay _ r.kind.emptyValue_angleFree⟩
          simp [take, hmet, answer, hv, substitute, hstand, hrequired, Draft.write]

/-- The default of an input is one of its props. -/
theorem Component.mem_of_default {c : Component} {props : Fields} {r : Requirement} {v : Value}
    (h : c.requirement props = .ok (some r)) (hv : r.default = some v) : ("default", v) ∈ props := by
  obtain ⟨kind, rfl, hr⟩ := requirement_eq_some h
  unfold askRequirement at hr
  split at hr
  · cases hr
  · split at hr
    · cases hr
    · cases hr
      exact Fields.mem_of_get? (Option.filter_eq_some_iff.mp hv).1

/-! ### Traces -/

/-- In a rendering the trace adds a text with its marks in order. -/
def Trace.Ordered (answers : Fields) (t : Trace) : Prop := ∀ d outer, ∃ d' cs,
  Mode.final.play answers t.events (d, outer) = (d', outer) ∧ d'.text = d.text ++ cs ∧ Neutral cs

namespace Trace.Ordered
variable {answers : Fields} {t u : Trace}

theorem nothing {halted : Option Malformed} : Ordered answers ⟨[], halted⟩ := fun d _ =>
  ⟨d, [], rfl, (List.append_nil _).symm, .of_angleFree .nil⟩

theorem text {cs : List Char} (h : AngleFree cs) : Ordered answers (.one (.text cs)) := fun _ _ =>
  ⟨_, cs, rfl, rfl, .of_angleFree h⟩

/-- What is no text, no input and no frame adds nothing. -/
theorem fault (e : PropsError) : Ordered answers (.one (.fault e)) := fun _ _ =>
  ⟨_, [], rfl, (List.append_nil _).symm, .of_angleFree .nil⟩

theorem action (a : Action) : Ordered answers (.one (.action a)) := fun _ _ =>
  ⟨_, [], rfl, (List.append_nil _).symm, .of_angleFree .nil⟩

theorem input {r : Requirement} (hanswers : Value.fieldsAngleFree answers = true)
    (hdefault : ∀ v, r.default = some v → v.isAngleFree = true) : Ordered answers (.one (.input r)) := fun d _ =>
  let ⟨cs, htext, hcs⟩ := Mode.take_angleFree hanswers hdefault d
  ⟨_, cs, rfl, htext, .of_angleFree hcs⟩

theorem andThen (ht : Ordered answers t) (hu : Ordered answers u) : Ordered answers (t.andThen u) := by
  unfold Trace.andThen
  split
  · exact ht
  · intro d outer
    obtain ⟨d₁, cs, hfirst, htext, hcs⟩ := ht d outer
    obtain ⟨d₂, ds, hsecond, hmore, hds⟩ := hu d₁ outer
    refine ⟨d₂, cs ++ ds, ?_, ?_, hcs.append hds⟩
    · rw [Mode.play_append, hfirst, hsecond]
    · rw [hmore, htext, List.append_assoc]

theorem framed {frame : Frame} (hframe : frame.Keeps) (ht : Ordered answers t) : Ordered answers (t.framed frame) := by
  intro d outer
  obtain ⟨d', cs, hplay, htext, hcs⟩ := ht { d with text := [] } (d.text :: outer)
  refine ⟨{ d' with text := d.text ++ frame.place d.text d'.text }, frame.place d.text d'.text, ?_, rfl, ?_⟩
  · show Mode.final.play answers (t.events ++ [.leave frame]) ({ d with text := [] }, d.text :: outer) = _
    rw [Mode.play_append, hplay]
    rfl
  · have hbody : d'.text = cs := htext
    rw [hbody]
    exact hframe d.text cs hcs

end Trace.Ordered

namespace Surroundings
variable {s : Surroundings} {answers : Fields}

/-- The node of the site has neither templates nor angles. -/
structure Quiet (s : Surroundings) (p : Site) : Prop where
  plain : p.node.NoTemplates s.registry
  angleFree : p.node.AngleFree

theorem Quiet.meets (hs : s.registry = Registry.standard) (hanswers : Value.fieldsAngleFree answers = true) {p : Site}
    {e : Event} (hp : s.Quiet p) (h : s.Meets p e) : (Trace.one e).Ordered answers := by
  cases h with
  | depth | refused | misdeclared | unrendered => exact .fault _
  | action => exact .action _
  | input hhandles hask =>
    cases hhandles.props.symm.trans hp.plain.props_plain.expandProps
    refine .input hanswers fun v hv => ?_
    refine hp.angleFree.of_prop (Node.AngleFree.tag_of_component hs hhandles ?_) (Component.mem_of_default hask hv)
    rintro rfl
    cases hask

/-- Without templates and angles all that a walk meets has its marks in order. -/
theorem quiet_builds (hs : s.registry = Registry.standard) (hctx : s.ctx.AngleFree)
    (hanswers : Value.fieldsAngleFree answers = true) : s.Builds s.Quiet (Trace.Ordered answers) where
  nothing _ := .nothing
  andThen := .andThen
  enters hp h := ⟨hp.plain.enters hs h, hp.angleFree.enters hs hctx hp.plain h⟩
  text hp htext := by
    cases hp.plain with
    | text hplain =>
      cases htext.symm.trans (Template.expand_of_not_marked _ hplain)
      exact .text hp.angleFree.of_text
  literal hp := .text hp.angleFree.of_literal
  meets hp h := hp.meets hs hanswers h
  framed hp hhandles hframe ht := by
    cases hhandles.props.symm.trans hp.plain.props_plain.expandProps
    exact ht.framed (frame_keeps hs hctx hp.angleFree hhandles hframe)

end Surroundings

/-! ### Renderings -/

/-- If there are no templates and no angles, the marks of a rendering are well nested: each closing mark closes the
    innermost one that is open, and none stays open. -/
theorem sections_well_nested (tree : Node) (ctx : Context) (answers : Fields) (hplain : tree.isUnmarked = true)
    (htree : tree.AngleFree) (hctx : ctx.AngleFree) (hanswers : Value.fieldsAngleFree answers = true) :
    isWellNested (render tree .standard ctx answers).text.toList = true := by
  let s : Setting := ⟨⟨.standard, ctx⟩, .final⟩
  let root : Site := ⟨maxDepth, ⟨answers, []⟩, tree⟩
  have hroot : s.Quiet root := ⟨tree.isUnmarked_namesOnly hplain, htree⟩
  have hordered : (s.trace tree answers).Ordered answers :=
    (Surroundings.quiet_builds rfl hctx hanswers).trace hroot 0
  obtain ⟨d, cs, hplay, htext, hcs⟩ := hordered {} []
  have hdraft : (s.run tree answers).text = cs := by
    rw [Setting.run_eq_gather]
    show (Mode.final.play answers (s.trace tree answers).events ({}, [])).1.text = cs
    rw [hplay]
    exact htext
  show isWellNested (String.ofList (Output.normalForm ctx.trim (s.run tree answers).text)).toList = true
  rw [String.toList_ofList, hdraft]
  exact (Output.normalForm_neutral ctx.trim hcs).isWellNested

/-- Sections of two styles, one of them in an item, and a malformed comparison inside the outer one. -/
def nestedBrief : Node := .element "Section" [("delimiter", .string "xml"), ("name", .string "brief")] [
  .element "Item" [] [.text "Read this:",
    .element "Section" [("delimiter", .string "xml"), ("name", .string "source")] [.text "one\ntwo"]],
  .element "Section" [("delimiter", .string "markdown"), ("name", .string "open-questions")] [
    .element "Ask.Text" [("name", .string "topic")] [],
    .element "If" [("when", .string "size < ")] [.text "inside"]],
  .element "Section" [("delimiter", .string "xml"), ("name", .string "later")] [.text "after"]]

/-- The comparison ends the walk, and the outer section is closed all the same. -/
theorem sections_well_nested_brief :
    nestedBrief.isUnmarked = true ∧ nestedBrief.AngleFree ∧ Context.bare.AngleFree ∧
      (render nestedBrief .standard .bare [("topic", .string "maps")]).errors.length = 1 ∧
      (render nestedBrief .standard .bare [("topic", .string "maps")]).text =
        "<brief>\n- Read this:\n\n  <source>\n  one\n  two\n  </source>\n\n### Open Questions\n\nmaps\n</brief>" ∧
      isWellNested (render nestedBrief .standard .bare [("topic", .string "maps")]).text.toList = true := by
  have hplain : nestedBrief.isUnmarked = true := by decide +kernel
  have hctx : Context.bare.AngleFree := {
    indent := by decide +kernel
    format := by decide +kernel
    language := nofun
    fact := fun fact => by cases fact <;> decide +kernel }
  have htree : nestedBrief.AngleFree := nestedBrief.isAngleFree_angleFree (by decide +kernel)
  exact ⟨hplain, htree, hctx, by decide +kernel, by decide +kernel,
    sections_well_nested nestedBrief .bare [("topic", .string "maps")] hplain htree hctx (by decide)⟩

end PromptForm
