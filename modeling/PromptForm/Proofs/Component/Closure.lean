import PromptForm.Proofs.Growth.Plain
import PromptForm.Proofs.Output.Angles

/-! # What components stand for

A component arranges its children, adds text of its own, and puts sections, items and the default sections of a prompt
around them. So what holds of its children, of what it writes (`Component.Writes`) and of the few elements that components
make (`Component.madeTags`) holds of the node that it stands for (`Component.render_closed`), as long as what holds of a
node is a matter of its parts (`Node.Closed`). -/

namespace PromptForm

open Output (AngleFree)

/-- The text is no template, and has no angle. -/
def Text.isInert (text : String) : Bool := !Template.isMarked text && decide (AngleFree text.toList)

theorem Text.isInert_iff {text : String} :
    isInert text = true ↔ Template.isMarked text = false ∧ AngleFree text.toList := by
  simp [isInert]

theorem Text.unmarked_of_isInert {text : String} (h : isInert text = true) : Template.isMarked text = false :=
  (isInert_iff.mp h).1

/-! ### Lists of nodes -/

namespace Node
variable {P : Node → Prop}

mutual
theorem forall_spliced (hmember : ∀ {nodes}, P (.fragment nodes) → ∀ n ∈ nodes, P n) :
    ∀ {n : Node}, P n → ∀ m ∈ n.spliced, P m
  | .empty, _, _, hm => nomatch hm
  | .fragment _, h, m, hm => forall_flatten hmember (hmember h) m hm
  | .text _, h, _, hm => List.mem_singleton.mp hm ▸ h
  | .literal _, h, _, hm => List.mem_singleton.mp hm ▸ h
  | .element _ _ _, h, _, hm => List.mem_singleton.mp hm ▸ h
/-- What holds of the members of fragments is kept by splicing. -/
theorem forall_flatten (hmember : ∀ {nodes}, P (.fragment nodes) → ∀ n ∈ nodes, P n) :
    ∀ {ns : List Node}, (∀ n ∈ ns, P n) → ∀ m ∈ flatten ns, P m
  | [], _, _, hm => nomatch hm
  | n :: ns, h, m, hm => by
    rcases List.mem_append.mp hm with hm | hm
    · exact forall_spliced hmember (h n List.mem_cons_self) m hm
    · exact forall_flatten hmember (fun n' hn' => h n' (List.mem_cons_of_mem n hn')) m hm
end

mutual
theorem toLiteral_of (htext : ∀ {template}, P (.text template) → P (.literal template))
    (hfragment : ∀ {nodes}, (∀ n ∈ nodes, P n) → P (.fragment nodes))
    (hmember : ∀ {nodes}, P (.fragment nodes) → ∀ n ∈ nodes, P n) : ∀ {n : Node}, P n → P n.toLiteral
  | .empty, h => h
  | .text _, h => htext h
  | .literal _, h => h
  | .fragment _, h => hfragment (forall_toLiterals htext hfragment hmember (hmember h))
  | .element _ _ _, h => h
theorem forall_toLiterals (htext : ∀ {template}, P (.text template) → P (.literal template))
    (hfragment : ∀ {nodes}, (∀ n ∈ nodes, P n) → P (.fragment nodes))
    (hmember : ∀ {nodes}, P (.fragment nodes) → ∀ n ∈ nodes, P n) :
    ∀ {ns : List Node}, (∀ n ∈ ns, P n) → ∀ m ∈ toLiterals ns, P m
  | [], _, _, hm => nomatch hm
  | n :: ns, h, m, hm => by
    rcases List.mem_cons.mp hm with rfl | hm
    · exact toLiteral_of htext hfragment hmember (h n List.mem_cons_self)
    · exact forall_toLiterals htext hfragment hmember (fun n' hn' => h n' (List.mem_cons_of_mem n hn')) m hm
end

theorem forall_numbered
    (hstep : ∀ {props children} (n : Int), P (.element "Step" props children) →
      P (.element "Step" (Fields.insert "number" (Value.int n) props) children)) :
    ∀ (count : Nat) {ns : List Node}, (∀ n ∈ ns, P n) → ∀ m ∈ Component.numbered count ns, P m
  | _, [], _, _, hm => nomatch hm
  | count, .element tag props children :: ns, h, m, hm => by
    obtain ⟨hn, hns⟩ := List.forall_mem_cons.mp h
    unfold Component.numbered at hm
    split at hm
    · rename_i htag
      subst htag
      rcases List.mem_cons.mp hm with rfl | hm
      · split
        · exact hn
        · exact hstep _ hn
      · exact forall_numbered hstep (count + 1) hns m hm
    · rcases List.mem_cons.mp hm with rfl | hm
      · exact hn
      · exact forall_numbered hstep count hns m hm
  | count, .empty :: ns, h, m, hm | count, .text _ :: ns, h, m, hm | count, .literal _ :: ns, h, m, hm
  | count, .fragment _ :: ns, h, m, hm => by
    obtain ⟨hn, hns⟩ := List.forall_mem_cons.mp h
    rcases List.mem_cons.mp hm with rfl | hm
    · exact hn
    · exact forall_numbered hstep count hns m hm

end Node

/-! ### Closed properties -/

/-- The tags of the elements that components make. -/
def Component.madeTags : List String := ["Section", "Item", "Role", "Format", "Constraints", "Constraint"]

/-- The texts that components write as they are: words of their own, what their props and the context say, and such
    texts one after the other. -/
inductive Component.Writes (good : Value → Prop) (ctx : Context) : String → Prop where
  | own {text} (h : Text.isInert text = true) : Writes good ctx text
  | append {a b} (ha : Writes good ctx a) (hb : Writes good ctx b) : Writes good ctx (a ++ b)
  | prop {text} (h : good (.string text)) : Writes good ctx text
  | data {v} (h : good v) : Writes good ctx v.text
  | pretty {v} (h : good v) : Writes good ctx v.pretty
  | format : Writes good ctx ctx.format
  | language {language} (h : ctx.language = some language) : Writes good ctx language
  | fact (fact : HostFact) : Writes good ctx (fact.read ctx.host)
  | date {format text} (hformat : Writes good ctx format) (h : ctx.host.now.format? format = some text) :
      Writes good ctx text
  | number (n : Int) : Writes good ctx (toString n)

/-- A text between words of the component. -/
theorem Component.Writes.around {good : Value → Prop} {ctx : Context} {before text after : String}
    (hbefore : Text.isInert before = true) (h : Writes good ctx text) (hafter : Text.isInert after = true) :
    Writes good ctx (before ++ text ++ after) :=
  .append (.append (.own hbefore) h) (.own hafter)

/-- A property of nodes that is kept by all that components do with nodes. The elements that they make have props that
    are inert or were props of theirs, and these are of a certain kind as well. -/
structure Node.Closed (good : Value → Prop) (ctx : Context) (P : Node → Prop) : Prop where
  own : ∀ {text}, Text.isInert text = true → good (.string text)
  empty : P .empty
  text : ∀ {template}, Text.isInert template = true → P (.text template)
  literal : ∀ {text}, Component.Writes good ctx text → P (.literal text)
  toLiteral : ∀ {template}, P (.text template) → P (.literal template)
  fragment : ∀ {nodes}, (∀ n ∈ nodes, P n) → P (.fragment nodes)
  member : ∀ {nodes}, P (.fragment nodes) → ∀ n ∈ nodes, P n
  made : ∀ {tag props children}, tag ∈ Component.madeTags → (∀ k v, (k, v) ∈ props → k ≠ "slots" ∧ good v) →
    (∀ n ∈ children, P n) → P (.element tag props children)
  /-- A step may get a number. -/
  step : ∀ {props children} (n : Int), P (.element "Step" props children) →
    P (.element "Step" (Fields.insert "number" (Value.int n) props) children)

namespace Node.Closed
variable {good : Value → Prop} {ctx : Context} {P : Node → Prop} {ns : List Node}

theorem flatten (hP : Closed good ctx P) : (∀ n ∈ ns, P n) → ∀ m ∈ Node.flatten ns, P m :=
  forall_flatten fun h => hP.member h

theorem toLiterals (hP : Closed good ctx P) : (∀ n ∈ ns, P n) → ∀ m ∈ Node.toLiterals ns, P m :=
  forall_toLiterals hP.toLiteral hP.fragment hP.member

theorem numbered (hP : Closed good ctx P) (count : Nat) : (∀ n ∈ ns, P n) → ∀ m ∈ Component.numbered count ns, P m :=
  forall_numbered hP.step count

/-! ### Elements that components make -/

variable {tag : String} {children : List Node}

theorem made_bare (hP : Closed good ctx P) (htag : tag ∈ Component.madeTags) (hchildren : ∀ n ∈ children, P n) :
    P (.element tag [] children) :=
  hP.made htag nofun hchildren

/-- An element with one prop, an inert text. -/
theorem made_own (hP : Closed good ctx P) (htag : tag ∈ Component.madeTags) {key text : String} (hkey : key ≠ "slots")
    (htext : Text.isInert text = true) (hchildren : ∀ n ∈ children, P n) :
    P (.element tag [(key, .string text)] children) :=
  hP.made htag (fun _ _ hmem => by
    cases List.mem_singleton.mp hmem
    exact ⟨hkey, hP.own htext⟩) hchildren

end Node.Closed

namespace Component
variable {good : Value → Prop} {ctx : Context} {P : Node → Prop} {props : Fields} {children : List Node} {n : Node}
open Node (Closed)

/-- What the component makes of its own is inert. -/
def isPlain : Component → Bool
  | .simpleSection name => Text.isInert name
  | .fixed _ _ => false
  | _ => true

/-- A section with an inert name, with a title or without one. -/
theorem section_closed (hP : Closed good ctx P) {name : String} {title : List (String × Value)}
    (hname : Text.isInert name = true) (htitle : ∀ k v, (k, v) ∈ title → k = "title" ∧ good v)
    (hchildren : ∀ n ∈ children, P n) :
    P (.element Intrinsic.section.tag (("name", .string name) :: title) children) := by
  refine hP.made (by decide) (fun k v hmem => ?_) hchildren
  rcases List.mem_cons.mp hmem with heq | hmem
  · cases heq
    exact ⟨by decide, hP.own hname⟩
  · obtain ⟨rfl, hv⟩ := htitle k v hmem
    exact ⟨by decide, hv⟩

theorem sectionOf_closed (hP : Closed good ctx P) {name : String} (hname : Text.isInert name = true) (hn : P n) :
    P (sectionOf name n) :=
  section_closed hP hname nofun (List.forall_mem_singleton.mpr hn)

theorem sectionIfContent_closed (hP : Closed good ctx P) {name : String} (hname : Text.isInert name = true)
    (hchildren : ∀ n ∈ children, P n) : P (sectionIfContent name children) := by
  unfold sectionIfContent
  split
  · exact sectionOf_closed hP hname (hP.fragment hchildren)
  · exact hP.empty

/-- What components put in of their own where a template may stand. -/
def ownTexts : List String :=
  ["role", "format", "constraints", "steps", "examples", "example", "Example", "must", "should", "MUST: ", "SHOULD: ",
   "MAY: ", "MUST NOT: ", "SHOULD NOT: ", "", "Return only the formatted output, with no extra commentary.\n",
   "Be accurate and do not invent facts, names or sources.", "Keep the response focused on the task."]

theorem ownTexts_inert : ∀ text ∈ ownTexts, Text.isInert text = true := by decide +kernel

theorem strength_inert (props : Fields) : Text.isInert (strength props) = true := by
  refine ownTexts_inert _ ?_
  unfold strength
  split <;> simp [ownTexts]

theorem number_plain (n : Nat) : Template.isMarked (toString n ++ ".") = false := by
  refine Template.isMarked_of_not_mem fun hmem => ?_
  rw [String.toList_append, Nat.toString_eq_repr, Nat.toList_repr, List.mem_append] at hmem
  rcases hmem with hmem | hmem
  · exact absurd (Nat.isDigit_of_mem_toDigits (by decide) (by decide) hmem) (by decide)
  · exact absurd hmem (by decide)

theorem number_inert (n : Nat) : Text.isInert (toString n ++ ".") = true :=
  Text.isInert_iff.mpr ⟨number_plain n, (AngleFree.nat n).concat (by decide)⟩

/-! ### Prompts -/

theorem DefaultKind.tag_made (kind : DefaultKind) : kind.tag ∈ madeTags := by
  cases kind <;> decide

theorem builtin_closed (hP : Closed good ctx P) (kind : DefaultKind) : P kind.builtin := by
  have hitem : ∀ strength text, Text.isInert strength = true → Text.isInert text = true →
      P (DefaultKind.constraint strength text) := fun strength text hstrength htext =>
    hP.made_own (by decide) (by decide) hstrength (List.forall_mem_singleton.mpr (hP.text htext))
  cases kind with
  | role => exact hP.made_bare (by decide) nofun
  | format => exact hP.made_bare (by decide) nofun
  | constraints =>
    refine hP.made_bare (by decide) (List.forall_mem_cons.mpr ⟨?_, List.forall_mem_singleton.mpr ?_⟩)
    · exact hitem _ _ (ownTexts_inert _ (by simp [ownTexts])) (ownTexts_inert _ (by simp [ownTexts]))
    · exact hitem _ _ (ownTexts_inert _ (by simp [ownTexts])) (ownTexts_inert _ (by simp [ownTexts]))

/-- The nodes that the values of slots describe are of the kind. -/
def SlotsAre (P : Node → Prop) (props : Fields) : Prop := ∀ slots slot v n, ("slots", .object slots) ∈ props →
  (slot, v) ∈ slots → Node.ofValue? v = some n → P n

theorem addition_closed (hP : Closed good ctx P) {kind : DefaultKind} {input : RenderInput} {added : List Node}
    (hslots : SlotsAre P input.props) (h : DefaultKind.addition kind input = .ok added) : ∀ n ∈ added, P n := by
  unfold DefaultKind.addition at h
  split at h
  · cases h
    exact nofun
  · split at h
    · rename_i v hv
      split at h
      · rename_i node hnode
        cases h
        obtain ⟨slots, hobject, hslot⟩ := Option.bind_eq_some_iff.mp hv
        obtain ⟨w, hw, hfields⟩ := Option.bind_eq_some_iff.mp hobject
        -- What the slot describes is a section of the kind already, or is put into one.
        have hsection : P node := by
          cases w with
          | object fields =>
            cases hfields
            exact hslots slots kind.slot v node (Fields.mem_of_get? hw) (Fields.mem_of_get? hslot) hnode
          | _ => cases hfields
        rw [List.forall_mem_singleton]
        unfold DefaultKind.wrapped
        split
        · exact hsection
        · exact hP.made_bare kind.tag_made (List.forall_mem_singleton.mpr hsection)
      · cases h
    · cases h
      split
      · exact nofun
      · exact List.forall_mem_singleton.mpr (builtin_closed hP kind)

/-- A prompt is its children with what it fills in. -/
theorem exists_additions {input : RenderInput} (h : renderPrompt input = .ok n) :
    ∃ role format constraints, DefaultKind.addition .role input = .ok role ∧
      DefaultKind.addition .format input = .ok format ∧ DefaultKind.addition .constraints input = .ok constraints ∧
      n = .fragment (role ++ input.children ++ format ++ constraints) := by
  unfold renderPrompt at h
  cases hrole : DefaultKind.addition .role input with
  | error e => simp [hrole, bind, Except.bind] at h
  | ok role =>
    cases hformat : DefaultKind.addition .format input with
    | error e => simp [hrole, hformat, bind, Except.bind] at h
    | ok format =>
      cases hconstraints : DefaultKind.addition .constraints input with
      | error e => simp [hrole, hformat, hconstraints, bind, Except.bind] at h
      | ok constraints =>
        simp only [hrole, hformat, hconstraints] at h
        cases h
        exact ⟨role, format, constraints, rfl, rfl, rfl, rfl⟩

/-- A prompt is left out for what is wrong with one of its additions. -/
theorem exists_addition_error {input : RenderInput} {e : PropsError} (h : renderPrompt input = .error e) :
    ∃ kind, DefaultKind.addition kind input = .error e := by
  unfold renderPrompt at h
  cases hrole : DefaultKind.addition .role input with
  | error e' =>
    rw [hrole] at h
    cases h
    exact ⟨_, hrole⟩
  | ok role =>
    cases hformat : DefaultKind.addition .format input with
    | error e' =>
      rw [hrole, hformat] at h
      cases h
      exact ⟨_, hformat⟩
    | ok format =>
      cases hconstraints : DefaultKind.addition .constraints input with
      | error e' =>
        rw [hrole, hformat, hconstraints] at h
        cases h
        exact ⟨_, hconstraints⟩
      | ok constraints =>
        rw [hrole, hformat, hconstraints] at h
        cases h

theorem prompt_closed (hP : Closed good ctx P) {input : RenderInput} (hslots : SlotsAre P input.props)
    (hchildren : ∀ n ∈ input.children, P n) (h : renderPrompt input = .ok n) : P n := by
  obtain ⟨role, format, constraints, hrole, hformat, hconstraints, rfl⟩ := exists_additions h
  have hbefore := addition_closed hP hslots hrole
  have hafter := addition_closed hP hslots hformat
  refine hP.fragment (List.forall_mem_append.mpr ⟨List.forall_mem_append.mpr ⟨?_, hafter⟩, ?_⟩)
  · exact List.forall_mem_append.mpr ⟨hbefore, hchildren⟩
  · exact addition_closed hP hslots hconstraints

/-! ### Other components -/

theorem role_closed (hP : Closed good ctx P) (hprops : ∀ k v, (k, v) ∈ props → good v) (hchildren : ∀ n ∈ children, P n) :
    P (renderRole props children) := by
  unfold renderRole
  split
  · exact sectionOf_closed hP (ownTexts_inert _ (by simp [ownTexts])) (hP.fragment hchildren)
  · refine sectionOf_closed hP (ownTexts_inert _ (by simp [ownTexts])) (hP.literal ?_)
    split
    · rename_i field hfield
      exact .around (by decide +kernel) (.prop (hprops _ _ (Fields.mem_of_text? hfield))) (by decide)
    · exact .own (by decide +kernel)

theorem format_closed (hP : Closed good ctx P) (hprops : ∀ k v, (k, v) ∈ props → good v) (hchildren : ∀ n ∈ children, P n) :
    P (renderFormat props children ctx) := by
  refine sectionOf_closed hP (ownTexts_inert _ (by simp [ownTexts])) (hP.fragment ?_)
  refine List.forall_mem_append.mpr ⟨List.forall_mem_append.mpr ⟨List.forall_mem_append.mpr ⟨?_, ?_⟩, ?_⟩, hchildren⟩
  · have hformat : Writes good ctx ((Fields.text? "type" props).getD ctx.format) := by
      cases htype : Fields.text? "type" props with
      | none => exact .format
      | some type => exact .prop (hprops _ _ (Fields.mem_of_text? htype))
    exact List.forall_mem_singleton.mpr (hP.literal (.around (by decide) hformat (by decide)))
  · split
    · exact List.forall_mem_singleton.mpr (hP.text (ownTexts_inert _ (by simp [ownTexts])))
    · exact nofun
  · split
    · rename_i schema hschema
      have hdata : Writes good ctx schema.pretty := .pretty (hprops _ _ (Fields.mem_of_get? hschema))
      exact List.forall_mem_singleton.mpr (hP.literal (.around (by decide +kernel) hdata (by decide)))
    · exact nofun

theorem listItem_closed (hP : Closed good ctx P) (hchildren : ∀ n ∈ children, P n) : P (renderListItem props children) := by
  unfold renderListItem
  split
  · rename_i n _
    exact hP.made_own (by decide) (by decide) (number_inert n) hchildren
  · exact hP.made_bare (by decide) hchildren

/-- The label moves into the title of a section, where it stands as a template again. -/
theorem example_closed (hP : Closed good ctx P) (hprops : ∀ k v, (k, v) ∈ props → good v) (hchildren : ∀ n ∈ children, P n) :
    P (renderExample props children) := by
  unfold renderExample
  refine section_closed hP (ownTexts_inert _ (by simp [ownTexts])) (fun k v hmem => ?_) ?_
  · cases List.mem_singleton.mp hmem
    refine ⟨rfl, ?_⟩
    cases hlabel : Fields.text? "label" props with
    | none => exact hP.own (ownTexts_inert _ (by simp [ownTexts]))
    | some label => exact hprops "label" _ (Fields.mem_of_text? hlabel)
  · refine List.forall_mem_append.mpr ⟨List.forall_mem_append.mpr ⟨?_, hchildren⟩, ?_⟩
    · split
      · rename_i text hinput
        have htext : Writes good ctx text := .prop (hprops _ _ (Fields.mem_of_text? hinput))
        exact List.forall_mem_singleton.mpr (hP.literal (.around (by decide) htext (by decide)))
      · exact nofun
    · split
      · rename_i text houtput
        have htext : Writes good ctx text := .prop (hprops _ _ (Fields.mem_of_text? houtput))
        exact List.forall_mem_singleton.mpr (hP.literal (.append (.own (by decide)) htext))
      · exact nofun

theorem simpleSection_closed (hP : Closed good ctx P) {name : String} (hname : Text.isInert name = true)
    (hprops : ∀ k v, (k, v) ∈ props → good v) (hchildren : ∀ n ∈ children, P n) :
    P (renderSimpleSection name props children) := by
  unfold renderSimpleSection
  split
  · refine section_closed hP hname (fun k v hmem => ?_) hchildren
    cases htitle : Fields.get? "title" props with
    | none =>
      rw [htitle] at hmem
      cases hmem
    | some title =>
      rw [htitle] at hmem
      cases List.mem_singleton.mp hmem
      exact ⟨rfl, hprops "title" _ (Fields.mem_of_get? htitle)⟩
  · exact hP.empty

theorem dateTime_closed (hP : Closed good ctx P) {input : RenderInput} (hprops : ∀ k v, (k, v) ∈ input.props → good v)
    (h : renderDateTime input ctx = .ok n) : P n := by
  have hformat : Writes good ctx ((Fields.text? "format" input.props).getD defaultDateFormat) := by
    cases hgiven : Fields.text? "format" input.props with
    | none => exact .own (by decide)
    | some format => exact .prop (hprops _ _ (Fields.mem_of_text? hgiven))
  simp only [renderDateTime] at h
  split at h
  · rename_i text hdate
    cases h
    exact hP.literal (.date hformat hdate)
  · cases h

theorem code_closed (hP : Closed good ctx P) (hprops : ∀ k v, (k, v) ∈ props → good v) (hchildren : ∀ n ∈ children, P n) :
    P (renderCode props children ctx) := by
  have hlanguage : Writes good ctx (if ctx.highlight then ((Fields.text? "language" props).or ctx.language).getD "" else "") := by
    split
    · cases hgiven : Fields.text? "language" props with
      | some language => exact .prop (hprops _ _ (Fields.mem_of_text? hgiven))
      | none =>
        cases hdefault : ctx.language with
        | some language => exact .language hdefault
        | none => exact .own (by decide)
    · exact .own (by decide)
  refine hP.fragment (List.forall_mem_append.mpr ⟨List.forall_mem_cons.mpr ⟨?_, hP.toLiterals hchildren⟩, ?_⟩)
  · exact hP.literal (.around (by decide) hlanguage (by decide))
  · exact List.forall_mem_singleton.mpr (hP.literal (.own (by decide)))

theorem json_closed (hP : Closed good ctx P) (hprops : ∀ k v, (k, v) ∈ props → good v) : P (renderJson props) := by
  refine hP.literal ?_
  cases hdata : Fields.get? "data" props with
  | none =>
    dsimp only [Option.getD_none]
    split <;> exact .own (by decide)
  | some data =>
    have hgood := hprops _ _ (Fields.mem_of_get? hdata)
    dsimp only [Option.getD_some]
    split
    · exact .pretty hgood
    · exact .data hgood

/-- What holds of the children, and of slots where they are read, holds of the node that a component stands for. -/
theorem render_closed (hP : Closed good ctx P) {c : Component} {tag : String} (hc : c.isPlain = true)
    (hprops : c ≠ .prompt → ∀ k v, (k, v) ∈ props → good v) (hslots : c = .prompt → SlotsAre P props)
    (hchildren : ∀ n ∈ children, P n) (h : c.render ⟨tag, props, children, none⟩ ctx = .ok n) : P n := by
  cases c with
  | prompt => exact prompt_closed hP (hslots rfl) hchildren h
  | role =>
    cases h
    exact role_closed hP (hprops nofun) hchildren
  | format =>
    cases h
    exact format_closed hP (hprops nofun) hchildren
  | constraints =>
    cases h
    exact sectionIfContent_closed hP (ownTexts_inert _ (by simp [ownTexts])) hchildren
  | constraint =>
    cases h
    exact hP.made_bare (by decide) (List.forall_mem_cons.mpr ⟨hP.text (strength_inert _), hchildren⟩)
  | steps =>
    cases h
    exact sectionIfContent_closed hP (ownTexts_inert _ (by simp [ownTexts])) (hP.numbered 0 (hP.flatten hchildren))
  | listItem =>
    cases h
    exact listItem_closed hP hchildren
  | examples =>
    cases h
    exact sectionIfContent_closed hP (ownTexts_inert _ (by simp [ownTexts])) hchildren
  | example_ =>
    cases h
    exact example_closed hP (hprops nofun) hchildren
  | simpleSection name =>
    cases h
    exact simpleSection_closed hP hc (hprops nofun) hchildren
  | ask kind =>
    cases h
    exact hP.empty
  | dateTime => exact dateTime_closed hP (hprops nofun) h
  | code =>
    cases h
    exact code_closed hP (hprops nofun) hchildren
  | postExecution =>
    cases h
    exact hP.fragment hchildren
  | fixed => cases hc
  | reviewFile | openUrl | runCommand =>
    cases h
    exact hP.empty
  | hostFact fact =>
    cases h
    exact hP.literal (.fact fact)
  | timestamp =>
    cases h
    exact hP.literal (.number _)
  | json =>
    cases h
    exact json_closed hP (hprops nofun)

end Component

/-! ### The builtin components -/

/-- Whether the handler is that of prompts. -/
def Handler.isPrompt : Handler → Bool
  | .component .prompt => true
  | _ => false

namespace Registry
variable {r : Registry} {tag : String} {props : Fields}

theorem handler?_of_resolve {h : Handler} (hr : r.resolve tag props = .ok h) : r.handler? tag = some h := by
  unfold resolve at hr
  split at hr
  · cases hr
  · rename_i h' hh
    split at hr
    · cases hr
      exact hh
    · cases hr

/-- What is builtin makes no templates, only `Prompt` is a prompt, and intrinsic elements have fixed tags. -/
def isBuiltin : String × Handler → Bool
  | (tag, .intrinsic i) => tag == i.tag
  | (tag, .component .prompt) => tag == "Prompt"
  | (_, .component c) => c.isPlain

theorem standard_isBuiltin {h : Handler} (hh : standard.handler? tag = some h) : isBuiltin (tag, h) = true := by
  have hall : standard.handlers.all isBuiltin = true := by decide +kernel
  exact List.all_eq_true.mp hall _ (Fields.mem_of_get? hh)

theorem standard_isPlain {c : Component} (h : standard.handler? tag = some (.component c)) : c.isPlain = true := by
  have hbuiltin := standard_isBuiltin h
  cases c with
  | prompt => rfl
  | _ => exact hbuiltin

theorem standard_prompt (h : standard.handler? tag = some (.component .prompt)) : tag = "Prompt" :=
  eq_of_beq (standard_isBuiltin h)

theorem standard_of_prompt {c : Component} (h : standard.handler? "Prompt" = some (.component c)) : c = .prompt := by
  have hprompt : (standard.handler? "Prompt").all Handler.isPrompt = true := by decide +kernel
  rw [h] at hprompt
  cases c with
  | prompt => rfl
  | _ => cases hprompt

theorem standard_intrinsic {i : Intrinsic} (h : standard.handler? tag = some (.intrinsic i)) : tag = i.tag :=
  eq_of_beq (standard_isBuiltin h)

end Registry

/-- The intrinsic element that the handler handles. -/
def Handler.intrinsic? : Handler → Option Intrinsic
  | .intrinsic i => some i
  | .component _ => none

namespace Surroundings
variable {s : Surroundings}

/-- No component takes the place of an intrinsic element. -/
theorem handler?_intrinsic (hs : s.registry = Registry.standard) (i : Intrinsic) :
    s.registry.handler? i.tag = some (.intrinsic i) := by
  have hall : Intrinsic.all.all (fun i => (Registry.standard.handler? i.tag).bind Handler.intrinsic? == some i) = true := by
    decide +kernel
  have hmem : i ∈ Intrinsic.all := by cases i <;> decide
  obtain ⟨handler, hhandler, hi⟩ := Option.bind_eq_some_iff.mp (eq_of_beq (List.all_eq_true.mp hall i hmem))
  rw [hs, hhandler]
  cases handler with
  | intrinsic j =>
    cases hi
    rfl
  | component c => cases hi

theorem isWaiting_intrinsic (hs : s.registry = Registry.standard) (i : Intrinsic) (props : Fields) (scope : Scope) :
    s.isWaiting i.tag props scope = .ok false := by
  simp [isWaiting, Registry.asksInput, handler?_intrinsic hs i]

/-- An intrinsic element whose templates expand and whose props fit is handled. -/
theorem handles_intrinsic (hs : s.registry = Registry.standard) {i : Intrinsic} {props expanded : Fields} {scope : Scope}
    (hexpanded : s.expandProps scope props = .ok expanded) (hfits : i.schema.violations (.object expanded) = []) :
    s.Handles i.tag props scope expanded (.intrinsic i) where
  decided := isWaiting_intrinsic hs i props scope
  props := hexpanded
  handler := by simp [Registry.resolve, handler?_intrinsic hs i, Handler.schema, hfits]

end Surroundings

end PromptForm
