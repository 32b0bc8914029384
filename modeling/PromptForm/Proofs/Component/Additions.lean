import PromptForm.Proofs.Pass.Context

/-! # What prompts add

For each kind of default section a prompt takes the first source that there is: a section of that kind among its children,
which it leaves alone, then the slot of that kind, then the built-in default (`DefaultKind.Fills`). The role is added before
the children, the others after them, and a slot that cannot be read spoils the prompt with all that is in it
(`prompt_filled`). -/

namespace PromptForm

namespace Node

/-- The node is one of the nodes, or stands in a fragment among them. -/
inductive Among (n : Node) : List Node → Prop where
  | here {nodes} (h : n ∈ nodes) : Among n nodes
  | inside {nodes nested} (hfragment : .fragment nested ∈ nodes) (h : Among n nested) : Among n nodes

theorem Among.mono {n : Node} {nodes more : List Node} (h : n.Among nodes) (hmore : nodes ⊆ more) : n.Among more := by
  cases h with
  | here hn => exact .here (hmore hn)
  | inside hfragment hn => exact .inside (hmore hfragment) hn

theorem mem_flatten {m : Node} {nodes : List Node} : m ∈ flatten nodes ↔ ∃ n ∈ nodes, m ∈ n.spliced := by
  induction nodes with
  | nil => simp [flatten]
  | cons n nodes ih => simp [flatten, ih]

mutual
theorem among_of_mem_spliced : ∀ {n m : Node}, m ∈ n.spliced → m.Among [n]
  | .empty, _, h => nomatch h
  | .fragment _, _, h => .inside List.mem_cons_self (among_of_mem_flatten h)
  | .text _, _, h | .literal _, _, h | .element _ _ _, _, h => .here h
theorem among_of_mem_flatten : ∀ {nodes : List Node} {m : Node}, m ∈ flatten nodes → m.Among nodes
  | [], _, h => nomatch h
  | _ :: nodes, _, h => (List.mem_append.mp h).elim
      (fun h => (among_of_mem_spliced h).mono (by simp))
      (fun h => (among_of_mem_flatten h).mono (List.subset_cons_self _ nodes))
end

/-- Splicing finds the elements at every depth of fragments. -/
theorem element_mem_flatten {tag : String} {props : Fields} {children nodes : List Node} :
    .element tag props children ∈ flatten nodes ↔ (Node.element tag props children).Among nodes := by
  refine ⟨among_of_mem_flatten, fun h => ?_⟩
  induction h with
  | here hn => exact mem_flatten.mpr ⟨_, hn, List.mem_singleton_self _⟩
  | inside hfragment _ ih => exact mem_flatten.mpr ⟨_, hfragment, ih⟩

theorem tag?_eq_some {n : Node} {tag : String} : n.tag? = some tag ↔ ∃ props children, n = .element tag props children := by
  cases n with
  | element t props children => simp [tag?]
  | _ => simp [tag?]

end Node

theorem Fields.flag_iff {key : String} {props : Fields} : flag key props = true ↔ get? key props = some (.bool true) := by
  unfold flag
  cases get? key props with
  | none => simp
  | some v => cases v <;> simp [Value.toBool?]

namespace Component
namespace DefaultKind
variable {kind : DefaultKind} {input : RenderInput} {v : Value}

/-- A section of the kind is among the nodes. -/
def Explicit (kind : DefaultKind) (nodes : List Node) : Prop :=
  ∃ props children, (Node.element kind.tag props children).Among nodes

theorem explicit_iff {nodes : List Node} :
    ((Node.flatten nodes).any fun child => child.tag? = some kind.tag) = true ↔ kind.Explicit nodes := by
  simp only [List.any_eq_true, decide_eq_true_eq, Node.tag?_eq_some, Explicit, ← Node.element_mem_flatten]
  constructor
  · rintro ⟨_, hchild, props, children, rfl⟩
    exact ⟨props, children, hchild⟩
  · rintro ⟨props, children, hchild⟩
    exact ⟨_, hchild, props, children, rfl⟩

/-- Only where no section of the kind is among the children its slot is looked at. -/
structure Consults (kind : DefaultKind) (input : RenderInput) (v : Value) : Prop where
  missing : ¬kind.Explicit input.children
  slot : kind.slotValue? input.props = some v

/-- What is added for a kind, and when. -/
structure Fills (kind : DefaultKind) (input : RenderInput) (added : Option Node) : Prop where
  isSome_iff : added.isSome = true ↔ ¬kind.Explicit input.children ∧ ((kind.slotValue? input.props).isSome = true ∨
    Fields.get? "bare" input.props ≠ some (.bool true) ∧ Fields.get? kind.omitFlag input.props ≠ some (.bool true))
  of_slot : ∀ n v, added = some n → kind.slotValue? input.props = some v → ∃ node, Node.ofValue? v = some node ∧
    n = if node.tag? = some kind.tag then node else .element kind.tag [] [node]
  builtin : ∀ n, added = some n → kind.slotValue? input.props = none → n = kind.builtin

theorem isOmitted_eq_false {props : Fields} : kind.isOmitted props = false ↔
    Fields.get? "bare" props ≠ some (.bool true) ∧ Fields.get? kind.omitFlag props ≠ some (.bool true) := by
  rw [isOmitted, Bool.or_eq_false_iff, Bool.eq_false_iff, Bool.eq_false_iff, ne_eq, ne_eq, Fields.flag_iff, Fields.flag_iff]

/-- An addition fails just if its slot is looked at and cannot be read. -/
theorem addition_eq_error {e : PropsError} : kind.addition input = .error e ↔
    ∃ v, kind.Consults input v ∧ Node.ofValue? v = none ∧ e = .component input.tag (.unreadableSlot kind.slot) := by
  constructor
  · intro h
    unfold addition at h
    split at h
    · cases h
    · rename_i hmissing
      split at h
      · rename_i v hslot
        split at h
        · cases h
        · rename_i hread
          cases h
          exact ⟨v, ⟨mt explicit_iff.mpr hmissing, hslot⟩, hread, rfl⟩
      · cases h
  · rintro ⟨v, hconsults, hread, rfl⟩
    rw [addition, if_neg (mt explicit_iff.mp hconsults.missing), hconsults.slot]
    simp only [hread]

/-- A slot that is looked at and can be read, or none at all, leads to at most one section. -/
theorem exists_addition (h : ∀ v, kind.Consults input v → (Node.ofValue? v).isSome = true) :
    ∃ added : Option Node, kind.addition input = .ok added.toList ∧ kind.Fills input added := by
  -- A section that is given among the children comes first, then the slot, and then the default unless it is omitted.
  by_cases hexplicit : kind.Explicit input.children
  · refine ⟨none, by rw [addition, if_pos (explicit_iff.mpr hexplicit)]; rfl, ?_, nofun, nofun⟩
    simp [hexplicit]
  · rw [addition, if_neg (mt explicit_iff.mp hexplicit)]
    cases hslot : kind.slotValue? input.props with
    | some v =>
      obtain ⟨node, hnode⟩ := Option.isSome_iff_exists.mp (h v ⟨hexplicit, hslot⟩)
      refine ⟨some (kind.wrapped node), by simp only [hnode]; rfl, ?_, ?_, ?_⟩
      · simp [hexplicit, hslot]
      · intro n w hn hw
        cases hn
        cases hslot.symm.trans hw
        exact ⟨node, hnode, rfl⟩
      · intro n _ hnone
        cases hslot.symm.trans hnone
    | none =>
      cases homitted : kind.isOmitted input.props with
      | true =>
        refine ⟨none, by simp, ?_, nofun, nofun⟩
        refine iff_of_false nofun fun hfills => ?_
        rcases hfills.2 with hslot' | hflags
        · cases hslot ▸ hslot'
        · cases homitted.symm.trans (isOmitted_eq_false.mpr hflags)
      | false =>
        refine ⟨some kind.builtin, by simp, ?_, fun _ _ _ hv => ?_, fun n hn _ => (Option.some.inj hn).symm⟩
        · exact iff_of_true rfl ⟨hexplicit, .inr (isOmitted_eq_false.mp homitted)⟩
        · cases hslot.symm.trans hv

end DefaultKind

variable {input : RenderInput}

theorem renderPrompt_ok {added : DefaultKind → Option Node} (h : ∀ kind, DefaultKind.addition kind input = .ok (added kind).toList) :
    renderPrompt input = .ok (.fragment ((added .role).toList ++ input.children ++ (added .format).toList ++
      (added .constraints).toList)) := by
  simp only [renderPrompt, h]
  rfl

/-- The first kind whose addition fails tells the error. -/
theorem renderPrompt_error {kind : DefaultKind} {e : PropsError} (h : DefaultKind.addition kind input = .error e) :
    ∃ kind e, DefaultKind.addition kind input = .error e ∧ renderPrompt input = .error e := by
  cases hrole : DefaultKind.addition .role input with
  | error e => exact ⟨_, e, hrole, by simp only [renderPrompt, hrole]; rfl⟩
  | ok role =>
    cases hformat : DefaultKind.addition .format input with
    | error e => exact ⟨_, e, hformat, by simp only [renderPrompt, hrole, hformat]; rfl⟩
    | ok format =>
      cases kind with
      | role => cases hrole.symm.trans h
      | format => cases hformat.symm.trans h
      | constraints => exact ⟨_, e, h, by simp only [renderPrompt, hrole, hformat, h]; rfl⟩

end Component

/-- A prompt whose slots can be read, as far as they are looked at, is its children with at most one section of each kind
    added to them. A slot that cannot be read spoils it: nothing is left of it but the error. -/
theorem prompt_filled (input : RenderInput) (ctx : Context) :
    ((∀ kind : Component.DefaultKind, ∀ v, kind.Consults input v → (Node.ofValue? v).isSome = true) →
      ∃ added : Component.DefaultKind → Option Node, (∀ kind : Component.DefaultKind, kind.Fills input (added kind)) ∧
        Component.prompt.render input ctx = .ok (.fragment ((added .role).toList ++ input.children ++
          (added .format).toList ++ (added .constraints).toList))) ∧
    ((∃ kind : Component.DefaultKind, ∃ v, kind.Consults input v ∧ Node.ofValue? v = none) →
      ∃ kind : Component.DefaultKind, ∃ v, kind.Consults input v ∧ Node.ofValue? v = none ∧
        Component.prompt.render input ctx = .error (.component input.tag (.unreadableSlot kind.slot)) ∧
        ∀ (s : Setting) (props : Fields) (scope : Scope) (room sections : Nat) (d : Draft),
          s.Handles input.tag props scope input.props (.component .prompt) →
            s.element (room + 1) input.tag props input.children scope sections d =
              d.skip (.component input.tag (.unreadableSlot kind.slot))) := by
  refine ⟨fun hread => ?_, ?_⟩
  · obtain ⟨added, hadded⟩ := Classical.axiomOfChoice fun kind => Component.DefaultKind.exists_addition (hread kind)
    exact ⟨added, fun kind => (hadded kind).2, Component.renderPrompt_ok fun kind => (hadded kind).1⟩
  · rintro ⟨kind, v, hconsults, hread⟩
    have hfails := Component.DefaultKind.addition_eq_error.mpr ⟨v, hconsults, hread, rfl⟩
    obtain ⟨kind, e, hkind, hrender⟩ := Component.renderPrompt_error hfails
    obtain ⟨v, hconsults, hread, rfl⟩ := Component.DefaultKind.addition_eq_error.mp hkind
    refine ⟨kind, v, hconsults, hread, hrender, fun s props scope room sections d h => ?_⟩
    have hwalk : s.element (room + 1) input.tag props input.children scope sections d = _ :=
      Setting.element_rendered h rfl rfl room sections d
    rwa [show Component.render .prompt ⟨input.tag, input.props, input.children, none⟩ s.ctx = _ from hrender] at hwalk

/-- A bare prompt with a format inside two fragments, and a slot of each kind. -/
def slottedPrompt : RenderInput where
  tag := "Prompt"
  props := [("bare", .bool true), ("slots", .object [("constraints", .null), ("format", .string "As a list."),
    ("role", .object [("children", .list [.string "You review code."]), ("tag", .string "Role")])])]
  children := [.fragment [.empty, .fragment [.element "Format" [] [.text "As a table."]]], .text "Review this."]
  resolved := none

/-- The slot of the format is not looked at, that of the role is a role already, and that of the constraints is empty. -/
theorem prompt_filled_slotted :
    (∀ kind : Component.DefaultKind, ∀ v, kind.Consults slottedPrompt v → (Node.ofValue? v).isSome = true) ∧
    (∃ added : Component.DefaultKind → Option Node, (∀ kind : Component.DefaultKind, kind.Fills slottedPrompt (added kind)) ∧
      Component.prompt.render slottedPrompt .bare = .ok (.fragment ((added .role).toList ++ slottedPrompt.children ++
        (added .format).toList ++ (added .constraints).toList))) ∧
    Component.prompt.render slottedPrompt .bare = .ok (.fragment ([.element "Role" [] [.text "You review code."]] ++
      slottedPrompt.children ++ [.element "Constraints" [] [.empty]])) := by
  have hread : ∀ kind : Component.DefaultKind, ∀ v, kind.Consults slottedPrompt v → (Node.ofValue? v).isSome = true := by
    intro kind v h
    cases kind with
    | role => cases h.slot; rfl
    | format => cases h.slot; rfl
    | constraints => cases h.slot; rfl
  exact ⟨hread, (prompt_filled slottedPrompt .bare).1 hread, rfl⟩

end PromptForm
