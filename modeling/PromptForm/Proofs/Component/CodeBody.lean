import PromptForm.Proofs.Pass.Context
import PromptForm.Proofs.Tree.Flat

/-! # The body of a code element

A code element takes the text of its body literally before the walk begins, fragments included, but leaves elements as
they are. A body of text, fragments and `Fragment` elements (`Node.areProse`) is walked leaf by leaf
(`Setting.walkAll_leaves`), so that text inside a `Fragment` element is a template, and all other text is not
(`Setting.code_body`). -/

namespace PromptForm

/-! ### Prose -/

namespace Node

mutual
/-- Text, fragments and `Fragment` elements, with at most so many of these elements inside each other. -/
def isProse (room : Nat) : Node → Bool
  | .empty | .text _ | .literal _ => true
  | .fragment nodes => areProse room nodes
  | .element tag props children =>
    match room with
    | 0 => false
    | room + 1 => tag == Intrinsic.fragment.tag && props.isEmpty && areProse room children
termination_by structural n => n
def areProse (room : Nat) : List Node → Bool
  | [] => true
  | n :: ns => isProse room n && areProse room ns
termination_by structural ns => ns
end

mutual
/-- The text nodes of a node, in document order. -/
def leaves : Node → List Node
  | .empty => []
  | .fragment nodes => leavesOf nodes
  | .element _ _ children => leavesOf children
  | node => [node]
termination_by structural n => n
def leavesOf : List Node → List Node
  | [] => []
  | n :: ns => leaves n ++ leavesOf ns
termination_by structural ns => ns
end

mutual
/-- The texts of a node, in document order. -/
def strings : Node → List String
  | .empty => []
  | .text s | .literal s => [s]
  | .fragment nodes => stringsOf nodes
  | .element _ _ children => stringsOf children
termination_by structural n => n
def stringsOf : List Node → List String
  | [] => []
  | n :: ns => strings n ++ stringsOf ns
termination_by structural ns => ns
end

theorem areProse_append {room : Nat} (ns ms : List Node) : areProse room (ns ++ ms) = (areProse room ns && areProse room ms) := by
  induction ns with
  | nil => rfl
  | cons n ns ih => rw [List.cons_append, areProse, areProse, ih, Bool.and_assoc]

theorem areUnmarked_append (ns ms : List Node) : areUnmarked (ns ++ ms) = (areUnmarked ns && areUnmarked ms) := by
  induction ns with
  | nil => rfl
  | cons n ns ih => rw [List.cons_append, areUnmarked, areUnmarked, ih, Bool.and_assoc]

theorem leavesOf_append (ns ms : List Node) : leavesOf (ns ++ ms) = leavesOf ns ++ leavesOf ms := by
  induction ns with
  | nil => rfl
  | cons n ns ih => rw [List.cons_append, leavesOf, leavesOf, ih, List.append_assoc]

theorem stringsOf_append (ns ms : List Node) : stringsOf (ns ++ ms) = stringsOf ns ++ stringsOf ms := by
  induction ns with
  | nil => rfl
  | cons n ns ih => rw [List.cons_append, stringsOf, stringsOf, ih, List.append_assoc]

mutual
theorem stringsOf_leaves : ∀ n : Node, stringsOf n.leaves = n.strings
  | .empty => rfl
  | .text s | .literal s => List.append_nil [s]
  | .fragment nodes => stringsOf_leavesOf nodes
  | .element _ _ children => stringsOf_leavesOf children
termination_by structural n => n
theorem stringsOf_leavesOf : ∀ ns : List Node, stringsOf (leavesOf ns) = stringsOf ns
  | [] => rfl
  | n :: ns => by rw [leavesOf, stringsOf_append, stringsOf_leaves n, stringsOf_leavesOf ns, stringsOf]
termination_by structural ns => ns
end

mutual
/-- Text that is taken literally is the same text. -/
theorem strings_toLiteral : ∀ n : Node, n.toLiteral.strings = n.strings
  | .empty | .text _ | .literal _ | .element _ _ _ => rfl
  | .fragment nodes => stringsOf_toLiterals nodes
termination_by structural n => n
theorem stringsOf_toLiterals : ∀ ns : List Node, stringsOf (toLiterals ns) = stringsOf ns
  | [] => rfl
  | n :: ns => by rw [toLiterals, stringsOf, strings_toLiteral n, stringsOf_toLiterals ns, stringsOf]
termination_by structural ns => ns
end

mutual
theorem isProse_toLiteral (room : Nat) : ∀ n : Node, n.toLiteral.isProse room = n.isProse room
  | .empty | .text _ | .literal _ | .element _ _ _ => rfl
  | .fragment nodes => areProse_toLiterals room nodes
termination_by structural n => n
theorem areProse_toLiterals (room : Nat) : ∀ ns : List Node, areProse room (toLiterals ns) = areProse room ns
  | [] => rfl
  | n :: ns => by rw [toLiterals, areProse, isProse_toLiteral room n, areProse_toLiterals room ns, areProse]
termination_by structural ns => ns
end

mutual
/-- Where there are no elements no template is left. -/
theorem isUnmarked_toLiteral : ∀ n : Node, n.isProse 0 = true → n.toLiteral.isUnmarked = true
  | .empty, _ | .text _, _ | .literal _, _ => rfl
  | .fragment nodes, h => areUnmarked_toLiterals nodes h
termination_by structural n => n
theorem areUnmarked_toLiterals : ∀ ns : List Node, areProse 0 ns = true → areUnmarked (toLiterals ns) = true
  | [], _ => rfl
  | n :: ns, h => by
    obtain ⟨hn, hns⟩ := Bool.and_eq_true_iff.mp h
    exact Bool.and_eq_true_iff.mpr ⟨isUnmarked_toLiteral n hn, areUnmarked_toLiterals ns hns⟩
termination_by structural ns => ns
end

end Node

/-! ### Walking prose -/

namespace Draft

/-- A pass that has not ended takes the next step. -/
theorem andThen_of_running {d : Draft} (h : d.halted = none) (step : Draft → Draft) : d.andThen step = step d := by
  simp [andThen, h]

theorem andThen_of_ended {d : Draft} {m : Malformed} (h : d.halted = some m) (step : Draft → Draft) : d.andThen step = d := by
  simp [andThen, h]

theorem write_append (d : Draft) (cs ds : List Char) : d.write (cs ++ ds) = (d.write cs).write ds := by
  simp [write]

end Draft

namespace Setting
open Node
variable {s : Setting} {element : ElementStep} {scope : Scope} {sections room : Nat}

theorem walkAll_append (ms : List Node) : ∀ (ns : List Node) (d : Draft), d.halted = none →
    s.walkAll element scope sections (ns ++ ms) d =
      (s.walkAll element scope sections ns d).andThen (s.walkAll element scope sections ms)
  | [], d, hd => (Draft.andThen_of_running hd _).symm
  | n :: ns, d, hd => by
    show (s.walk element scope sections n d).andThen _ = ((s.walk element scope sections n d).andThen _).andThen _
    cases hend : (s.walk element scope sections n d).halted with
    | some m => rw [Draft.andThen_of_ended hend, Draft.andThen_of_ended hend, Draft.andThen_of_ended hend]
    | none =>
      rw [Draft.andThen_of_running hend, Draft.andThen_of_running hend]
      exact walkAll_append ms ns _ hend

/-- A `Fragment` element is walked like its children. -/
theorem element_fragment (hs : s.registry = Registry.standard) (room : Nat) (children : List Node) (d : Draft) :
    s.element (room + 1) Intrinsic.fragment.tag [] children scope sections d =
      s.walkAll (s.element room) scope sections children d := by
  have hfits : Intrinsic.fragment.schema.violations (.object []) = [] := by decide +kernel
  exact element_intrinsic (Surroundings.handles_intrinsic hs rfl hfits) room sections d

mutual
/-- Prose is walked leaf by leaf. -/
theorem walk_leaves (hs : s.registry = Registry.standard) : ∀ (n : Node) (room : Nat) (d : Draft), n.isProse room = true →
    d.halted = none → s.walk (s.element room) scope sections n d = s.walkAll element scope sections n.leaves d
  | .empty, _, _, _, _ => rfl
  | .text template, _, d, _, _ => by
    show s.walk element scope sections (.text template) d = s.walkAll element scope sections [.text template] d
    exact (walkAll_singleton _ d).symm
  | .literal written, _, d, _, _ => by
    show s.walk element scope sections (.literal written) d = s.walkAll element scope sections [.literal written] d
    exact (walkAll_singleton _ d).symm
  | .fragment nodes, room, d, h, hd => walkAll_leaves hs nodes room d h hd
  | .element tag props children, 0, d, h, hd => nomatch h
  | .element tag props children, room + 1, d, h, hd => by
    simp only [isProse, Bool.and_eq_true, beq_iff_eq, List.isEmpty_iff] at h
    obtain ⟨⟨rfl, rfl⟩, hchildren⟩ := h
    exact (element_fragment hs room children d).trans (walkAll_leaves hs children room d hchildren hd)
termination_by structural n => n
theorem walkAll_leaves (hs : s.registry = Registry.standard) : ∀ (ns : List Node) (room : Nat) (d : Draft),
    areProse room ns = true → d.halted = none →
      s.walkAll (s.element room) scope sections ns d = s.walkAll element scope sections (leavesOf ns) d
  | [], _, _, _, _ => rfl
  | n :: ns, room, d, h, hd => by
    obtain ⟨hn, hns⟩ := Bool.and_eq_true_iff.mp h
    rw [leavesOf, walkAll_append _ _ _ hd, ← walk_leaves hs n room d hn hd]
    show (s.walk (s.element room) scope sections n d).andThen _ = _
    cases hend : (s.walk (s.element room) scope sections n d).halted with
    | some m => rw [Draft.andThen_of_ended hend, Draft.andThen_of_ended hend]
    | none =>
      rw [Draft.andThen_of_running hend, Draft.andThen_of_running hend]
      exact walkAll_leaves hs ns room _ hns hend
termination_by structural ns => ns
end

mutual
theorem walkAll_unmarked_leaves : ∀ (n : Node) (d : Draft), n.isUnmarked = true → d.halted = none →
    s.walkAll element scope sections n.leaves d = d.write (n.strings.flatMap String.toList)
  | .empty, d, _, _ => d.write_nil.symm
  | .text template, d, h, _ => by
    have hexpand : s.expand scope template = .ok template :=
      Template.expand_of_not_marked _ (by simpa [isUnmarked] using h)
    show s.walkAll element scope sections [.text template] d = d.write (template.toList ++ [])
    rw [walkAll_singleton, walk, hexpand, List.append_nil]
  | .literal written, d, _, _ => by
    show s.walkAll element scope sections [.literal written] d = d.write (written.toList ++ [])
    rw [walkAll_singleton, walk, List.append_nil]
  | .fragment nodes, d, h, hd => walkAll_unmarked nodes d h hd
  | .element _ _ children, d, h, hd => walkAll_unmarked children d (Bool.and_eq_true_iff.mp h).2 hd
termination_by structural n => n
/-- Text without templates is written as it is. -/
theorem walkAll_unmarked : ∀ (ns : List Node) (d : Draft), areUnmarked ns = true → d.halted = none →
    s.walkAll element scope sections (leavesOf ns) d = d.write ((stringsOf ns).flatMap String.toList)
  | [], d, _, _ => d.write_nil.symm
  | n :: ns, d, h, hd => by
    obtain ⟨hn, hns⟩ := Bool.and_eq_true_iff.mp h
    have hrun : (d.write (n.strings.flatMap String.toList)).halted = none := hd
    rw [leavesOf, walkAll_append _ _ _ hd, walkAll_unmarked_leaves n d hn hd, Draft.andThen_of_running hrun,
      walkAll_unmarked ns _ hns hrun, stringsOf, List.flatMap_append, Draft.write_append]
termination_by structural ns => ns
end

end Setting

/-! ### Code elements -/

/-- The line before the body of a code element. -/
def Component.openingFence (props : Fields) (ctx : Context) : String :=
  "\n```" ++ (if ctx.highlight then ((Fields.text? "language" props).or ctx.language).getD "" else "") ++ "\n"

/-- The line after the body of a code element. -/
def Component.closingFence : String := "\n```\n"

namespace Setting
open Node
variable {s : Setting} {element : ElementStep} {scope : Scope} {room : Nat} {props expanded : Fields} {children : List Node}

/-- A code element is walked like its fences and its body, of which the text outside of elements is taken literally. -/
theorem element_code (hs : s.registry = Registry.standard) (hprops : s.expandProps scope props = .ok expanded)
    (hfits : Component.code.schema.violations (.object expanded) = []) (room sections : Nat) (children : List Node)
    (d : Draft) : s.element (room + 1) "Code" props children scope sections d =
      s.walkAll (s.element room) scope sections
        (.literal (Component.openingFence expanded s.ctx) :: toLiterals children ++ [.literal Component.closingFence]) d := by
  have hhandler : Registry.standard.handler? "Code" = some (.component .code) := rfl
  have hdecided : s.isWaiting "Code" props scope = .ok false := by
    simp [Surroundings.isWaiting, Registry.asksInput, hs, hhandler, Component.asksInput]
  have hresolve : s.registry.resolve "Code" expanded = .ok (.component .code) := by
    simp [Registry.resolve, hs, hhandler, Handler.schema, hfits]
  exact element_rendered ⟨hdecided, hprops, hresolve⟩ rfl rfl room sections d

/-- The text in the body of a code element is not a template, neither in the body itself nor in its fragments; only in
    a `Fragment` element it is one. So a code element with a body of text, fragments and `Fragment` elements is walked
    text by text between its fences. If no text inside a `Fragment` element has markup, and so in particular if there are
    no such elements, then the walk writes the opening fence, all texts in order and unchanged, and the closing fence,
    and does nothing else. -/
theorem code_body (hs : s.registry = Registry.standard) (hprops : s.expandProps scope props = .ok expanded)
    (hfits : Component.code.schema.violations (.object expanded) = []) (hbody : areProse room children = true)
    (sections : Nat) (d : Draft) (hd : d.halted = none) :
    (∀ element, s.element (room + 1) "Code" props children scope sections d =
      s.walkAll element scope sections (.literal (Component.openingFence expanded s.ctx) ::
        leavesOf (toLiterals children) ++ [.literal Component.closingFence]) d) ∧
    (areUnmarked (toLiterals children) = true ∨ areProse 0 children = true →
      s.element (room + 1) "Code" props children scope sections d =
        d.write ((Component.openingFence expanded s.ctx).toList ++ (String.join (stringsOf children)).toList ++
          Component.closingFence.toList)) := by
  -- Prose is walked text by text and enters no element, so the way to enter elements does not matter.
  have hwalk : ∀ element, s.element (room + 1) "Code" props children scope sections d =
      s.walkAll element scope sections (.literal (Component.openingFence expanded s.ctx) ::
        leavesOf (toLiterals children) ++ [.literal Component.closingFence]) d := by
    intro element
    have hprose : areProse room (.literal (Component.openingFence expanded s.ctx) :: toLiterals children ++
        [.literal Component.closingFence]) = true := by
      rw [List.cons_append, areProse, areProse_append, areProse_toLiterals, hbody]
      rfl
    have hleaves : s.walkAll (s.element room) scope sections _ d = s.walkAll element scope sections _ d :=
      walkAll_leaves hs _ room d hprose hd
    rw [element_code hs hprops hfits, hleaves, leavesOf_append]
    rfl
  refine ⟨hwalk, fun hplain => ?_⟩
  have hunmarked : areUnmarked (toLiterals children) = true := hplain.elim id (areUnmarked_toLiterals children)
  have hpieces : areUnmarked (.literal (Component.openingFence expanded s.ctx) :: toLiterals children ++
      [.literal Component.closingFence]) = true := by
    rw [List.cons_append, areUnmarked, areUnmarked_append, hunmarked]
    rfl
  have hwritten : s.walkAll (s.element room) scope sections _ d = _ := walkAll_unmarked _ d hpieces hd
  rw [leavesOf_append] at hwritten
  rw [hwalk (s.element room)]
  refine hwritten.trans (congrArg d.write ?_)
  rw [List.cons_append, stringsOf, stringsOf_append, stringsOf_toLiterals]
  simp [strings, stringsOf]

/-- A body with markup in its own text and in a fragment, and a `Fragment` element without. -/
def markedBody : List Node :=
  [.text "\x7b\x7b x \x7d\x7d", .fragment [.text "\x7b% if %\x7d"], .element "Fragment" [] [.text " end"]]

theorem code_body_marked :
    let s : Setting := ⟨⟨.standard, .bare⟩, .final⟩
    let props : Fields := [("language", .string "rust")]
    s.expandProps ⟨[], []⟩ props = .ok props ∧ Component.code.schema.violations (.object props) = [] ∧
    areProse 1 markedBody = true ∧ areUnmarked (toLiterals markedBody) = true ∧
    s.element 2 "Code" props markedBody ⟨[], []⟩ 0 {} =
      Draft.write {} ((Component.openingFence props s.ctx).toList ++ (String.join (stringsOf markedBody)).toList ++
        Component.closingFence.toList) := by
  intro s props
  have hlanguage : Fields.Plain props := fun k v hmem => by
    cases List.mem_singleton.mp hmem
    exact Value.plain_string.mpr (by decide +kernel)
  have hprops : s.expandProps ⟨[], []⟩ props = .ok props := hlanguage.expandProps
  have hfits : Component.code.schema.violations (.object props) = [] := by decide +kernel
  have hbody : areProse 1 markedBody = true := by decide +kernel
  have hplain : areUnmarked (toLiterals markedBody) = true := by decide +kernel
  exact ⟨hprops, hfits, hbody, hplain, (code_body rfl hprops hfits hbody 0 {} rfl).2 (.inl hplain)⟩

/-- A name in a `Fragment` element in the body of a code element is replaced by its value. -/
theorem code_body_expanded : ¬∀ (s : Setting) (scope : Scope) (props expanded : Fields) (children : List Node)
    (room sections : Nat) (d : Draft), s.registry = Registry.standard → s.expandProps scope props = .ok expanded →
    Component.code.schema.violations (.object expanded) = [] → areProse room children = true → d.halted = none →
    s.element (room + 1) "Code" props children scope sections d =
      d.write ((Component.openingFence expanded s.ctx).toList ++ (String.join (stringsOf children)).toList ++
        Component.closingFence.toList) := by
  intro h
  have hwritten := h ⟨⟨.standard, .bare⟩, .final⟩ ⟨[], []⟩ [] [] [.element "Fragment" [] [.text "\x7b\x7b x \x7d\x7d"]] 1 0
    {} rfl rfl (by decide +kernel) (by decide +kernel) rfl
  exact absurd (congrArg Draft.text hwritten) (by decide +kernel)

end Setting
end PromptForm
