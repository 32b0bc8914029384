import PromptForm.Proofs.Pass.Context
import PromptForm.Proofs.Pass.Roots
import PromptForm.Proofs.Trace.Drafts
import PromptForm.Proofs.Tree.Elements

/-! # Answers that a tree does not mention

Without templates a walk looks names up in three places only: an input its own name, a condition the names that it
reads, and a loop the text that it runs over (`Node.mentions`). Answers that agree on these names are read alike at every
site (`parallel_of_agree`). So the walks with them are the same walk, and the passes find the same
(`unmentioned_answers`). -/

namespace PromptForm

/-! ### Names that are mentioned -/

theorem Fields.has_of_mem {α : Type} {k : String} {v : α} : ∀ {fields : List (String × α)}, (k, v) ∈ fields → has k fields = true
  | (k', v') :: fields, h => by
    unfold has get?
    split
    · rfl
    · rename_i hne
      rcases List.mem_cons.mp h with heq | h
      · cases heq
        exact absurd rfl hne
      · exact has_of_mem h

namespace Node

/-- The names that an element mentions itself: its own if it is an input, the roots of what its condition reads if it
    is a branch, and the root of what it runs over if it is a loop. -/
def namesAt (tag : String) (props : Fields) : List String :=
  (if Registry.standard.asksInput tag then (Fields.text? "name" props).toList else []) ++
  (if tag = "If" then
    match Condition.ofValue ((Fields.get? "when" props).getD .null) with
    | .ok condition => condition.references.map Scope.rootOf
    | .error _ => []
  else []) ++
  (if tag = "ForEach" then (Fields.text? "items" props).toList.map fun text => Scope.rootOf (Text.trimmed text) else [])

theorem mem_namesAt_of_rootsAt {tag : String} {props : Fields} {n : String} (h : n ∈ rootsAt tag props) :
    n ∈ namesAt tag props := by
  rw [namesAt, List.append_assoc]
  exact List.mem_append_right _ h

mutual
/-- The names that a tree mentions. -/
def mentions : Node → List String
  | .empty | .text _ | .literal _ => []
  | .fragment nodes => mentionsOf nodes
  | .element tag props children => namesAt tag props ++ mentionsOf children
termination_by structural n => n
def mentionsOf : List Node → List String
  | [] => []
  | n :: ns => mentions n ++ mentionsOf ns
termination_by structural ns => ns
end

mutual
/-- No prompt has slots. -/
def isSlotless : Node → Bool
  | .empty | .text _ | .literal _ => true
  | .fragment nodes => areSlotless nodes
  | .element tag props children => !(tag == "Prompt" && Fields.has "slots" props) && areSlotless children
termination_by structural n => n
def areSlotless : List Node → Bool
  | [] => true
  | n :: ns => isSlotless n && areSlotless ns
termination_by structural ns => ns
end

/-- An element mentions only names of a certain kind. -/
def Mentioning (known : String → Prop) (tag : String) (props : Fields) : Prop := ∀ n ∈ namesAt tag props, known n

section Mentions
variable {known : String → Prop}

/-- Components make no elements that mention names. -/
theorem makes_mentioning (known : String → Prop) : Component.Makes (Mentioning known) := by
  have hmade : ∀ tag ∈ "Step" :: Component.madeTags,
      Registry.standard.asksInput tag = false ∧ tag ≠ "If" ∧ tag ≠ "ForEach" := by decide +kernel
  intro tag htag props n hn
  obtain ⟨hasks, hbranch, hloop⟩ := hmade tag htag
  simp [namesAt, hasks, hbranch, hloop] at hn

mutual
theorem every_mentioning : ∀ n : Node, n.isSlotless = true → (∀ name ∈ n.mentions, known name) → n.Every (Mentioning known)
  | .empty, _, _ => .empty
  | .text _, _, _ => .text _
  | .literal _, _, _ => .literal _
  | .fragment nodes, hslots, h => .fragment (every_mentioningOf nodes hslots h)
  | .element tag props children, hslots, h => by
    obtain ⟨hown, hchildren⟩ := List.forall_mem_append.mp h
    obtain ⟨hnone, hrest⟩ := Bool.and_eq_true_iff.mp hslots
    refine .element hown (fun hprompt slots _ _ _ hmem => ?_) (every_mentioningOf children hrest hchildren)
    simp [hprompt, Fields.has_of_mem hmem] at hnone
termination_by structural n => n
theorem every_mentioningOf : ∀ ns : List Node, areSlotless ns = true → (∀ name ∈ mentionsOf ns, known name) →
    ∀ n ∈ ns, n.Every (Mentioning known)
  | [], _, _ => nofun
  | n :: ns, hslots, h => by
    obtain ⟨hn, hns⟩ := List.forall_mem_append.mp h
    obtain ⟨hfirst, hrest⟩ := Bool.and_eq_true_iff.mp hslots
    exact List.forall_mem_cons.mpr ⟨every_mentioning n hfirst hn, every_mentioningOf ns hrest hns⟩
termination_by structural ns => ns
end

end Mentions
end Node

/-! ### Lookups -/

section Lookups
variable {others : Fields} {known : String → Prop} {scope : Scope}

/-- Answers agree on certain names. -/
def Fields.Agree (known : String → Prop) (a b : Fields) : Prop := ∀ n, known n → get? n b = get? n a

theorem Scope.root?_agree (h : Fields.Agree known scope.answers others) {n : String} (hn : known n) :
    (scope.answering others).root? n = scope.root? n := by
  simp only [root?, answering, answer?, h n hn]

end Lookups

/-! ### Trees without templates -/

section Walks
variable {s : Surroundings} {others : Fields} {known : String → Prop} {p : Site}

/-- At every site of a walk the other answers are read like the answers. -/
theorem parallel_of_agree (hs : s.registry = Registry.standard) (hplain : p.node.NoTemplates s.registry)
    (hnames : p.node.Every (Node.Mentioning known)) (hagree : Fields.Agree known p.scope.answers others) :
    Parallel (· = ·) s others p := by
  refine parallel_of_roots hs hplain fun {room scope tag props children} hq n hn => ?_
  have hscope : Fields.Agree known scope.answers others := Surroundings.answers_of_visits hq ▸ hagree
  have hown := (hnames.visits hs (Node.makes_mentioning known) hq).of_element
  exact Scope.root?_agree hscope (hown n (Node.mem_namesAt_of_rootsAt hn))

/-- An input that a walk meets is mentioned. -/
theorem known_of_input (hs : s.registry = Registry.standard) (hplain : p.node.NoTemplates s.registry)
    (hnames : p.node.Every (Node.Mentioning known)) {sections : Nat} {r : Requirement}
    (h : .input r ∈ (s.traceAt sections p).events) : known r.name := by
  obtain ⟨q, hq, hmeets⟩ := Surroundings.exists_meets h rfl
  cases hmeets with
  | input hhandles hask =>
    cases hhandles.props.symm.trans (hplain.visits hs hq).props_plain.expandProps
    obtain ⟨kind, rfl, hr⟩ := Component.requirement_eq_some hask
    have hasks := Registry.asksInput_component (Registry.handler?_of_resolve hhandles.handler)
    rw [hs] at hasks
    refine (hnames.visits hs (Node.makes_mentioning known) hq).of_element r.name ?_
    simp [Node.namesAt, hasks, Component.asksInput, Component.text?_of_askRequirement hr]

end Walks

/-! ### Passes -/

namespace Mode
variable {mode : Mode} {answers others : Fields}

theorem play_congr (mode : Mode) : ∀ (events : List Event) (desk : Desk),
    (∀ r, .input r ∈ events → Fields.get? r.name others = Fields.get? r.name answers) →
      mode.play others events desk = mode.play answers events desk
  | [], _, _ => rfl
  | event :: events, desk, h => by
    have hmeet : mode.meet others desk event = mode.meet answers desk event := by
      obtain ⟨d, outer⟩ := desk
      cases event with
      | input r => exact congrArg (·, outer) (take_congr (h r List.mem_cons_self) d)
      | leave frame => cases outer <;> rfl
      | _ => rfl
    have hrest := play_congr mode events (mode.meet answers desk event) fun r hr => h r (List.mem_cons_of_mem event hr)
    show mode.play others events (mode.meet others desk event) = _
    rw [hmeet, hrest]
    rfl

end Mode

/-- Answers that the tree does not mention have no effect. -/
theorem unmentioned_answers (tree : Node) (ctx : Context) (answers others : Fields) (hunmarked : tree.isUnmarked = true)
    (hslots : tree.isSlotless = true) (hagree : ∀ n ∈ tree.mentions, Fields.get? n others = Fields.get? n answers) :
    discover tree .standard ctx others = discover tree .standard ctx answers ∧
      render tree .standard ctx others = render tree .standard ctx answers := by
  let s : Surroundings := ⟨.standard, ctx⟩
  let root : Site := ⟨maxDepth, ⟨answers, []⟩, tree⟩
  have hplain : root.node.NoTemplates s.registry := tree.isUnmarked_namesOnly hunmarked
  have hnames : root.node.Every (Node.Mentioning (· ∈ tree.mentions)) := Node.every_mentioning tree hslots fun _ hn => hn
  have htrace : s.trace tree answers = s.trace tree others :=
    Surroundings.related .eq (parallel_of_agree rfl hplain hnames hagree) 0
  have hrun : ∀ mode : Mode, Setting.run ⟨s, mode⟩ tree others = Setting.run ⟨s, mode⟩ tree answers := by
    intro mode
    -- Every input that is met is mentioned, so the mode makes the same of the one walk.
    have hplay := mode.play_congr (s.trace tree answers).events ({}, []) fun r hr =>
      hagree r.name (known_of_input rfl hplain hnames hr)
    simp only [Setting.run_eq_gather, ← htrace, Mode.gather, hplay]
  exact ⟨by simp only [discover, hrun, s], by simp only [render, hrun, s]⟩

/-- An input, a branch that reads a path, and a loop over a comma list. -/
def askedReport : Node := .fragment [
  .element "Ask.Text" [("name", .string "topic")] [],
  .element "If" [("when", .string "user.role == 'admin'")] [.element "Ask.Date" [("name", .string "due")] []],
  .element "ForEach" [("items", .string " rows ")] [.text "row"]]

theorem unmentioned_answers_report :
    let answers : Fields := [("rows", .string "a, b"), ("user", .object [("role", .string "admin")])]
    let others : Fields := [("draft", .string "yes"), ("rows", .string "a, b"), ("user", .object [("role", .string "admin")])]
    askedReport.isUnmarked = true ∧ askedReport.isSlotless = true ∧
    (∀ n ∈ askedReport.mentions, Fields.get? n others = Fields.get? n answers) ∧
    discover askedReport .standard .bare others = discover askedReport .standard .bare answers ∧
    render askedReport .standard .bare others = render askedReport .standard .bare answers := by
  intro answers others
  have hunmarked : askedReport.isUnmarked = true := by decide +kernel
  have hslots : askedReport.isSlotless = true := by decide +kernel
  have hmentions : askedReport.mentions = ["topic", "user", "due", "rows"] := by decide +kernel
  have hagree : ∀ n ∈ askedReport.mentions, Fields.get? n others = Fields.get? n answers := by
    rw [hmentions]
    simp [answers, others, Fields.get?]
  exact ⟨hunmarked, hslots, hagree, unmentioned_answers askedReport .bare answers others hunmarked hslots hagree⟩

end PromptForm
