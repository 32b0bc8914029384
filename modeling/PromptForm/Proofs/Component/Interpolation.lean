import PromptForm.Proofs.Growth.NamesOnly
import PromptForm.Proofs.Locality.Named

/-! # How often a prop is read as a template

The templates in the props of an element are expanded when the element is entered. What a component makes of the
expanded props may be an element again, and when that is entered, its props are expanded in turn. So it depends on
where a component puts a prop whether the text that a template has printed is read as a template once more. The name
of an answer as a prop shows both (`Surroundings.prop_interpolation`): most props end up in literal text, but the
title of a task or the label of an example moves to the title of a section. -/

namespace PromptForm

/-- The name of the sections that the handler makes under a title of their own. -/
def Handler.sectionName? : Handler → Option String
  | .component (.simpleSection name) => some name
  | _ => none

namespace Surroundings
variable {s : Surroundings} {scope : Scope} {tag : String} {props expanded : Fields} {children : List Node}

/-- The nodes of a section in its frame. -/
def sectionTrace (s : Surroundings) (room : Nat) (style : Output.SectionStyle) (scope : Scope) (sections : Nat)
    (nodes : List Node) : Trace :=
  (s.nodesTrace (s.elementTrace room) scope (sections + 1) nodes).framed (.section style)

theorem elementTrace_section (h : s.Handles tag props scope expanded (.intrinsic .section)) (room sections : Nat) :
    s.elementTrace (room + 1) tag props children scope sections =
      s.sectionTrace room (s.sectionStyle expanded sections) scope sections children :=
  elementTrace_intrinsic h room

/-! ### Sections that components make -/

/-- The props of a section that a component makes. -/
def madeSection (name : String) (title : Option String) : Fields :=
  ("name", .string name) :: (title.map fun text => ("title", Value.string text)).toList

/-- A name that a component gives to a section is no template, and it fits. -/
structure SectionName (name : String) : Prop where
  plain : Template.isMarked name = false
  fits : Pattern.sectionName.matchesIn name.toList = true

theorem sectionName_made : ∀ name ∈ ["role", "format", "example"], SectionName name := by
  intro name hname
  have hall : ["role", "format", "example"].all (fun name =>
      !Template.isMarked name && Pattern.sectionName.matchesIn name.toList) = true := by decide +kernel
  have hfits := List.all_eq_true.mp hall name hname
  rw [Bool.and_eq_true, Bool.not_eq_true'] at hfits
  exact ⟨hfits.1, hfits.2⟩

/-- A title as a scope reads it. -/
def expandTitle (s : Surroundings) (scope : Scope) : Option String → Except Malformed (Option String)
  | none => .ok none
  | some text => (s.expand scope text).map some

theorem madeSection_fits {name : String} (hname : SectionName name) (title : Option String) :
    Intrinsic.section.schema.violations (.object (madeSection name title)) = [] := by
  cases title <;>
    simp [Intrinsic.schema, Schema.closedObject, Schema.violations, Schema.violationsOfAll, Schema.violationsOfKnown,
      madeSection, Fields.get?, Schema.matching, Schema.string, Schema.hasType, hname.fits, Fields.has]

/-- The title of a section that a component makes is read as a template where the section is entered. -/
theorem expandProps_madeSection {name : String} (hname : SectionName name) (title : Option String) :
    s.expandProps scope (madeSection name title) =
      (s.expandTitle scope title).map (madeSection name) := by
  have hplain : s.expand scope name = .ok name := Template.expand_of_not_marked _ hname.plain
  cases title with
  | none =>
    simp [expandProps, madeSection, expandTitle, expandValue, expandText, hplain, Except.map, bind, Except.bind, pure,
      Except.pure]
  | some text =>
    cases h : s.expand scope text <;>
      simp [expandProps, madeSection, expandTitle, expandValue, expandText, hplain, h, Except.map, bind, Except.bind,
        pure, Except.pure]

/-- What a walk meets at a section that a component makes: its title is read as a template once more. -/
def madeTrace (s : Surroundings) (room : Nat) (scope : Scope) (sections : Nat) (name : String) (title : Option String)
    (nodes : List Node) : Trace :=
  match s.expandTitle scope title with
  | .error m => .stop m
  | .ok written => s.sectionTrace room (s.sectionStyle (madeSection name written) sections) scope sections nodes

theorem elementTrace_madeSection (hs : s.registry = Registry.standard) {name : String} (hname : SectionName name)
    (title : Option String) (nodes : List Node) (room sections : Nat) :
    s.elementTrace (room + 1) Intrinsic.section.tag (madeSection name title) nodes scope sections =
      s.madeTrace room scope sections name title nodes := by
  have hexpand : s.expandProps scope (madeSection name title) = (s.expandTitle scope title).map (madeSection name) :=
    expandProps_madeSection hname title
  cases htitle : s.expandTitle scope title with
  | error m =>
    rw [htitle] at hexpand
    simp only [elementTrace, isWaiting_intrinsic hs .section, hexpand, Except.map, madeTrace, htitle]
  | ok written =>
    rw [htitle] at hexpand
    simp only [madeTrace, htitle]
    exact elementTrace_section (handles_intrinsic hs hexpand (madeSection_fits hname written)) room sections

/-! ### Components -/

/-- A component that asks for no input and calls for no action stands for its section. -/
theorem elementTrace_made (hs : s.registry = Registry.standard) {c : Component}
    (h : s.Handles tag props scope expanded (.component c)) (hask : c.requirement expanded = .ok none)
    (haction : c.action? expanded s.ctx = none) {name : String} (hname : SectionName name) {title : Option String}
    {nodes : List Node} (hrender : c.render ⟨tag, expanded, children, none⟩ s.ctx =
      .ok (.element Intrinsic.section.tag (madeSection name title) nodes)) (room sections : Nat) :
    s.elementTrace (room + 2) tag props children scope sections =
      s.madeTrace room scope sections name title nodes := by
  have hsection : s.elementTrace (room + 2) tag props children scope sections =
      s.elementTrace (room + 1) Intrinsic.section.tag (madeSection name title) nodes scope sections := by
    rw [elementTrace_component h]
    simp only [componentTrace, hask, haction, hrender]
    rfl
  rw [hsection]
  exact elementTrace_madeSection hs hname title nodes room sections

variable {v : String}

theorem text?_of_get? {key : String} (h : Fields.get? key expanded = some (.string v)) :
    Fields.text? key expanded = some v := by
  simp [Fields.text?, h, Value.toString?]

theorem elementTrace_role (hs : s.registry = Registry.standard)
    (h : s.Handles tag props scope expanded (.component .role))
    (hv : Fields.get? "expertise" expanded = some (.string v)) (hempty : Node.hasContent children = false)
    (room sections : Nat) : s.elementTrace (room + 2) tag props children scope sections =
      s.madeTrace room scope sections "role" none
        [.literal ("You are a helpful assistant with expertise in " ++ v ++ ".")] := by
  have hname : SectionName "role" := sectionName_made _ (by simp)
  have hrender : Component.render .role ⟨tag, expanded, children, none⟩ s.ctx =
      .ok (.element Intrinsic.section.tag (madeSection "role" none)
        [.literal ("You are a helpful assistant with expertise in " ++ v ++ ".")]) := by
    simp [Component.render, Component.renderRole, hempty, text?_of_get? hv, Component.sectionOf, madeSection]
  exact elementTrace_made hs h rfl rfl hname hrender room sections

theorem elementTrace_format (hs : s.registry = Registry.standard)
    (h : s.Handles tag props scope expanded (.component .format))
    (hv : Fields.get? "type" expanded = some (.string v)) (room sections : Nat) :
    ∃ rest, s.elementTrace (room + 2) tag props children scope sections =
      s.madeTrace room scope sections "format" none [.fragment (.literal ("Respond in " ++ v ++ " format.\n") :: rest)] := by
  have hname : SectionName "format" := sectionName_made _ (by simp)
  obtain ⟨rest, hrender⟩ : ∃ rest, Component.render .format ⟨tag, expanded, children, none⟩ s.ctx =
      .ok (.element Intrinsic.section.tag (madeSection "format" none)
        [.fragment (.literal ("Respond in " ++ v ++ " format.\n") :: rest)]) := by
    simp only [Component.render, Component.renderFormat, text?_of_get? hv, Component.sectionOf, madeSection, Option.getD_some,
      Option.map_none, Option.toList_none, List.append_assoc, List.singleton_append]
    exact ⟨_, rfl⟩
  exact ⟨rest, elementTrace_made hs h rfl rfl hname hrender room sections⟩

/-- What an example writes before and after its children. -/
def exampleNodes (expanded : Fields) (children : List Node) : List Node :=
  ((Fields.text? "input" expanded).map fun text => Node.literal ("Input: " ++ text ++ "\n")).toList ++ children ++
    ((Fields.text? "output" expanded).map fun text => Node.literal ("\nOutput: " ++ text)).toList

theorem elementTrace_example (hs : s.registry = Registry.standard)
    (h : s.Handles tag props scope expanded (.component .example_)) (room sections : Nat) :
    s.elementTrace (room + 2) tag props children scope sections =
      s.madeTrace room scope sections "example" (some ((Fields.text? "label" expanded).getD "Example"))
        (exampleNodes expanded children) := by
  have hname : SectionName "example" := sectionName_made _ (by simp)
  have hrender : Component.render .example_ ⟨tag, expanded, children, none⟩ s.ctx =
      .ok (.element Intrinsic.section.tag
        (madeSection "example" (some ((Fields.text? "label" expanded).getD "Example"))) (exampleNodes expanded children)) := by
    cases hinput : Fields.text? "input" expanded <;> cases houtput : Fields.text? "output" expanded <;>
      simp [Component.render, Component.renderExample, exampleNodes, madeSection, hinput, houtput]
  exact elementTrace_made hs h rfl rfl hname hrender room sections

theorem standard_sectionName {name : String} (h : Registry.standard.handler? tag = some (.component (.simpleSection name))) :
    SectionName name := by
  have hall : Registry.standard.handlers.all (fun entry => entry.2.sectionName?.all fun name =>
      !Template.isMarked name && Pattern.sectionName.matchesIn name.toList) = true := by decide +kernel
  have hfits := List.all_eq_true.mp hall _ (Fields.mem_of_get? h)
  simp only [Handler.sectionName?, Option.all_some, Bool.and_eq_true, Bool.not_eq_true'] at hfits
  exact ⟨hfits.1, hfits.2⟩

theorem elementTrace_simpleSection (hs : s.registry = Registry.standard) {name : String}
    (h : s.Handles tag props scope expanded (.component (.simpleSection name)))
    (hv : Fields.get? "title" expanded = some (.string v)) (hcontent : Node.hasContent children = true)
    (room sections : Nat) : s.elementTrace (room + 2) tag props children scope sections =
      s.madeTrace room scope sections name (some v) children := by
  have hname : SectionName name := standard_sectionName (hs ▸ Registry.handler?_of_resolve h.handler)
  have hrender : Component.render (.simpleSection name) ⟨tag, expanded, children, none⟩ s.ctx =
      .ok (.element Intrinsic.section.tag (madeSection name (some v)) children) := by
    simp [Component.render, Component.renderSimpleSection, hcontent, hv, madeSection]
  exact elementTrace_made hs h rfl rfl hname hrender room sections

/-- The prop of a name has the text that the name means. -/
theorem get?_expanded_named {n key : String} (hn : Template.Readable n) (hv : scope.root? n = some (.string v))
    (hprops : s.expandProps scope props = .ok expanded)
    (hkey : Fields.get? key props = some (.string (Template.named n))) : Fields.get? key expanded = some (.string v) := by
  obtain ⟨w, hw, hexpand⟩ := get?_expandProps hprops hkey
  simp only [expandValue, expandText, expand_named hn hv, Except.map, Except.ok.injEq] at hexpand
  rwa [← hexpand] at hw

theorem madeTrace_none (room : Nat) (sections : Nat) (name : String) (nodes : List Node) :
    s.madeTrace room scope sections name none nodes =
      s.sectionTrace room (s.sectionStyle (madeSection name none) sections) scope sections nodes := rfl

theorem madeTrace_some (room : Nat) (sections : Nat) (name : String) (nodes : List Node) :
    s.madeTrace room scope sections name (some v) nodes =
      match s.expand scope v with
      | .error m => .stop m
      | .ok w => s.sectionTrace room (s.sectionStyle (madeSection name (some w)) sections) scope sections nodes := by
  cases h : s.expand scope v <;> simp [madeTrace, expandTitle, h, Except.map]

/-- What the template of a name contributes as a prop. As the title of a section, the expertise of a role, the type of
    a format, and the input or the output of an example it contributes the text that the name means, and this text is
    not read again. The title of any other kind of section and the label of an example become the title of a section
    that is entered after them, so that there the text is read as a template itself: the walk ends if it cannot be
    expanded, and otherwise it contributes what it expands to. -/
theorem prop_interpolation (hs : s.registry = Registry.standard) {n : String} (hn : Template.Readable n)
    (hv : scope.root? n = some (.string v)) {handler : Handler} (h : s.Handles tag props scope expanded handler)
    (room sections : Nat) :
    (handler = .intrinsic .section → Fields.get? "title" props = some (.string (Template.named n)) →
      s.elementTrace (room + 1) tag props children scope sections =
        s.sectionTrace room { s.sectionStyle expanded sections with title := some v.toList } scope sections children) ∧
    (handler = .component .role → Fields.get? "expertise" props = some (.string (Template.named n)) →
      Node.hasContent children = false →
      s.elementTrace (room + 2) tag props children scope sections =
        s.sectionTrace room (s.sectionStyle (madeSection "role" none) sections) scope sections
          [.literal ("You are a helpful assistant with expertise in " ++ v ++ ".")]) ∧
    (handler = .component .format → Fields.get? "type" props = some (.string (Template.named n)) →
      ∃ rest, s.elementTrace (room + 2) tag props children scope sections =
        s.sectionTrace room (s.sectionStyle (madeSection "format" none) sections) scope sections
          [.fragment (.literal ("Respond in " ++ v ++ " format.\n") :: rest)]) ∧
    (handler = .component .example_ → Fields.get? "input" props = some (.string (Template.named n)) →
      ∃ rest, s.elementTrace (room + 2) tag props children scope sections =
        s.madeTrace room scope sections "example" (some ((Fields.text? "label" expanded).getD "Example"))
          (.literal ("Input: " ++ v ++ "\n") :: rest)) ∧
    (handler = .component .example_ → Fields.get? "output" props = some (.string (Template.named n)) →
      ∃ before, s.elementTrace (room + 2) tag props children scope sections =
        s.madeTrace room scope sections "example" (some ((Fields.text? "label" expanded).getD "Example"))
          (before ++ [.literal ("\nOutput: " ++ v)])) ∧
    (handler = .component .example_ → Fields.get? "label" props = some (.string (Template.named n)) →
      s.elementTrace (room + 2) tag props children scope sections =
        match s.expand scope v with
        | .error m => .stop m
        | .ok w =>
          s.sectionTrace room (s.sectionStyle (madeSection "example" (some w)) sections) scope sections
            (exampleNodes expanded children)) ∧
    (∀ name, handler = .component (.simpleSection name) → Fields.get? "title" props = some (.string (Template.named n)) →
      Node.hasContent children = true →
      s.elementTrace (room + 2) tag props children scope sections =
        match s.expand scope v with
        | .error m => .stop m
        | .ok w =>
          s.sectionTrace room (s.sectionStyle (madeSection name (some w)) sections) scope sections children) := by
  have hget : ∀ key, Fields.get? key props = some (.string (Template.named n)) →
      Fields.get? key expanded = some (.string v) := fun key => get?_expanded_named hn hv h.props
  refine ⟨?_, ?_, ?_, ?_, ?_, ?_, ?_⟩
  · rintro rfl htitle
    rw [elementTrace_section h]
    simp only [sectionStyle, text?_of_get? (hget "title" htitle), Option.map_some]
  · rintro rfl hexpertise hempty
    rw [elementTrace_role hs h (hget "expertise" hexpertise) hempty, madeTrace_none]
  · rintro rfl htype
    obtain ⟨rest, hrest⟩ := elementTrace_format hs h (hget "type" htype) room sections
    exact ⟨rest, hrest⟩
  · rintro rfl hinput
    rw [elementTrace_example hs h, exampleNodes, text?_of_get? (hget "input" hinput)]
    exact ⟨_, rfl⟩
  · rintro rfl houtput
    rw [elementTrace_example hs h, exampleNodes, text?_of_get? (hget "output" houtput)]
    exact ⟨_, rfl⟩
  · rintro rfl hlabel
    rw [elementTrace_example hs h, text?_of_get? (hget "label" hlabel), Option.getD_some, madeTrace_some]
  · rintro name rfl htitle hcontent
    rw [elementTrace_simpleSection hs h (hget "title" htitle) hcontent, madeTrace_some]

/-- What passes over a form with the standard components read under markdown delimiters. -/
def markdown : Surroundings := ⟨Registry.standard, { Form.confirmForm.ctx with delimiter := .markdown }⟩

/-- A scope in which a topic looks like a template. -/
def pastedScope : Scope := ⟨[("topic", .string (Template.named "secret"))], []⟩

theorem readable_topic : Template.Readable "topic" := ⟨by decide +kernel, by decide, by decide, by decide⟩

/-- As the title of a section the topic stands as it is. -/
theorem prop_interpolation_topic :
    markdown.elementTrace 128 Intrinsic.section.tag (madeSection "notes" (some (Template.named "topic"))) [.text "Body."]
        pastedScope 0 =
      markdown.sectionTrace 127 { markdown.sectionStyle (madeSection "notes" (some (Template.named "secret"))) 0 with
        title := some (Template.named "secret").toList } pastedScope 0 [.text "Body."] := by
  have hname : SectionName "notes" := ⟨by decide +kernel, by decide +kernel⟩
  have hsection : markdown.registry.handler? Intrinsic.section.tag = some (.intrinsic .section) := handler?_intrinsic rfl .section
  have hexpand : markdown.expand pastedScope (Template.named "topic") = .ok (Template.named "secret") :=
    expand_named readable_topic rfl
  have hdecided : markdown.isWaiting Intrinsic.section.tag (madeSection "notes" (some (Template.named "topic")))
      pastedScope = .ok false := by simp [isWaiting, Registry.asksInput, hsection]
  have hprops : markdown.expandProps pastedScope (madeSection "notes" (some (Template.named "topic"))) =
      .ok (madeSection "notes" (some (Template.named "secret"))) := by
    rw [expandProps_madeSection hname, expandTitle, hexpand]
    rfl
  have hhandler : markdown.registry.resolve Intrinsic.section.tag (madeSection "notes" (some (Template.named "secret"))) =
      .ok (.intrinsic .section) := by simp [Registry.resolve, hsection, Handler.schema, madeSection_fits hname]
  obtain ⟨htitle, -⟩ := prop_interpolation rfl readable_topic rfl ⟨hdecided, hprops, hhandler⟩ 127 0
  exact htitle rfl rfl

/-- A task whose title is the topic. -/
def taskForm : Form := ⟨.element "Task" [("title", .string (Template.named "topic"))] [.text "Body."], markdown.registry,
  markdown.ctx⟩

/-- It is not so that the template of a name as the title of a task always contributes the text that the name means. -/
theorem title_read_again : ¬∀ (f : Form) (answers : Fields) (n v : String), f.registry = Registry.standard →
    f.ctx.delimiter = .markdown → f.tree = .element "Task" [("title", .string (Template.named n))] [.text "Body."] →
    Template.Readable n → Fields.get? n answers = some (.string v) →
    Text.contains (f.render answers).text.toList v.toList = true := by
  intro h
  have hcontains := h taskForm [("secret", .string "S3CR3T"), ("topic", .string (Template.named "secret"))] "topic"
    (Template.named "secret") rfl rfl rfl readable_topic rfl
  have hprinted : Text.contains
      (taskForm.render [("secret", .string "S3CR3T"), ("topic", .string (Template.named "secret"))]).text.toList
      (Template.named "secret").toList = false := by decide +kernel
  rw [hprinted] at hcontains
  cases hcontains

end Surroundings
end PromptForm
