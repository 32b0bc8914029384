import PromptForm.Proofs.Pass.Isolation
import PromptForm.Proofs.Tree.Room

/-! # The nesting limit

The limit is on the elements that a walk comes to inside each other, and these are the elements of the tree and those that
components make around them. So a tree may exceed the limit though its own elements do not nest that deeply
(`nesting_not_limited`), and it cannot once the made elements are counted as well. On the other hand no element
is walked that has as many elements of the tree around it as the limit allows (`nesting_limited`). -/

namespace PromptForm

/-! ### Elements inside each other -/

namespace Node

mutual
/-- How many elements of the tree stand inside each other at most. -/
def height : Node → Nat
  | .empty | .text _ | .literal _ => 0
  | .fragment nodes => heightOfAll nodes
  | .element _ _ children => heightOfAll children + 1
def heightOfAll : List Node → Nat
  | [] => 0
  | n :: ns => max n.height (heightOfAll ns)
end

/-- A node inside so many elements of a tag. -/
def nestedIn (tag : String) (n : Node) : Nat → Node
  | 0 => n
  | count + 1 => .element tag [] [nestedIn tag n count]

/-- An element stands among the children of another one. It may have got other props on the way, as steps do. -/
inductive StandsIn : Node → Node → Prop where
  | intro {tag props nodes inner given shown children} (h : .element inner given children ∈ flatten nodes) :
      StandsIn (.element inner shown children) (.element tag props nodes)

mutual
theorem sizeOf_of_mem_spliced : ∀ {n m : Node}, m ∈ n.spliced → sizeOf m ≤ sizeOf n
  | .empty, _, h => nomatch h
  | .fragment nodes, m, h => by
    have hsmall : sizeOf m < sizeOf nodes := sizeOf_of_mem_flatten h
    simp only [Node.fragment.sizeOf_spec]
    omega
  | .text _, _, h | .literal _, _, h | .element _ _ _, _, h => Nat.le_of_eq (congrArg sizeOf (List.mem_singleton.mp h))
theorem sizeOf_of_mem_flatten : ∀ {nodes : List Node} {m : Node}, m ∈ flatten nodes → sizeOf m < sizeOf nodes
  | [], _, h => nomatch h
  | n :: nodes, m, h => by
    simp only [List.cons.sizeOf_spec]
    rcases List.mem_append.mp h with h | h
    · have hsmall : sizeOf m ≤ sizeOf n := sizeOf_of_mem_spliced h
      omega
    · have hsmall : sizeOf m < sizeOf nodes := sizeOf_of_mem_flatten h
      omega
end

/-- No element stands in itself. -/
theorem StandsIn.ne {n outer : Node} (h : n.StandsIn outer) : n ≠ outer := by
  rintro rfl
  cases h with
  | intro h =>
    have hsmall := sizeOf_of_mem_flatten h
    simp only [Node.element.sizeOf_spec] at hsmall
    omega

theorem not_standsIn_fragment {n : Node} {nodes : List Node} : ¬n.StandsIn (.fragment nodes) := nofun

end Node

/-! ### Walks with room -/

/-- The error tells that elements stand too deeply inside each other. -/
def PropsError.isTooDeep : PropsError → Bool
  | .depthExceeded _ _ => true
  | _ => false

theorem Registry.resolve_shallow {r : Registry} {tag : String} {props : Fields} {e : PropsError}
    (h : r.resolve tag props = .error e) : e.isTooDeep = false := by
  unfold resolve at h
  split at h
  · cases h
    rfl
  · split at h <;> cases h
    rfl

/-- An error about an element that a pass reports was met on its trace. -/
theorem Mode.fault_of_mem_errors {mode : Mode} {answers : Fields} {t : Trace} {tag : String} {e : PropsError}
    (htag : e.tag? = some tag) (h : .props e ∈ (mode.gather answers t).allErrors) : .fault e ∈ t.events := by
  have habout : RenderError.isAbout tag (.props e) = true := beq_iff_eq.mpr htag
  have hmem := List.mem_filter.mpr ⟨h, habout⟩
  rw [(Draft.allErrors_about tag _).2] at hmem
  have hplay := mode.play_about answers tag t.events ({}, [])
  rw [show (mode.gather answers t).errors = (mode.play answers t.events ({}, [])).1.errors from rfl, hplay] at hmem
  obtain ⟨event, hevent, herror⟩ := List.mem_filterMap.mp hmem
  cases event with
  | fault p =>
    simp only [Event.errorAbout?] at herror
    split at herror <;> cases herror
    exact hevent
  | _ => cases herror

/-- Where there is room no element is too deep. -/
theorem Node.Fits.shallow {s : Surroundings} {p : Site} (hs : s.registry = Registry.standard) (hp : p.node.Fits p.room)
    (sections : Nat) : (s.traceAt sections p).Finds fun event => ∀ e, event = .fault e → e.isTooDeep = false := by
  suffices hkeeps : s.Keeps (fun q => q.node.Fits q.room) fun event => ∀ e, event = .fault e → e.isTooDeep = false from
    Surroundings.finds hkeeps hp sections
  refine ⟨fun hq h => hq.enters hs h, fun hq hmeets e he => ?_⟩
  cases hmeets with
  | @depth _ tag => exact absurd hq.levels_le (Nat.not_le.mpr (Registry.levels_pos _ tag))
  | refused _ h =>
    cases he
    exact Registry.resolve_shallow h
  | misdeclared _ h =>
    cases he
    obtain ⟨kind, fault, rfl⟩ := Component.requirement_error h
    rfl
  | unrendered _ _ h =>
    cases he
    obtain ⟨fault, rfl⟩ := Component.render_error h
    rfl
  | input | action => cases he

/-- A pass over a tree with room reports no element as too deep. -/
theorem Setting.run_shallow {s : Setting} {tree : Node} (hs : s.registry = Registry.standard) (h : tree.Fits maxDepth)
    (answers : Fields) (tag : String) (limit : Nat) : .props (.depthExceeded tag limit) ∉ (s.run tree answers).allErrors := by
  intro hmem
  rw [Setting.run_eq_gather] at hmem
  have hfault := Mode.fault_of_mem_errors rfl hmem
  exact nomatch Node.Fits.shallow (p := ⟨maxDepth, ⟨answers, []⟩, tree⟩) hs h 0 _ hfault rfl _ rfl

/-! ### Elements of the tree around a site -/

namespace Surroundings
variable {s : Surroundings} {root p q : Site} {k : Nat}

/-- The walk from a site comes to an element with so many elements of the tree around it: one after the other, from the
    outermost, is walked, and each stands among the children of the one before. -/
inductive Reaches (s : Surroundings) (root : Site) : Nat → Site → Prop where
  | outermost {q : Site} (hvisits : s.Visits root q) (h : q.node ∈ root.node.spliced) : Reaches s root 0 q
  | inside {k : Nat} {p q : Site} (hp : Reaches s root k p) (hvisits : s.Visits p q) (h : q.node.StandsIn p.node) :
      Reaches s root (k + 1) q

theorem room_le_of_enters (h : s.Enters p q) : q.room ≤ p.room := by
  cases h with
  | member => exact Nat.le_refl _
  | child | expansion => exact Nat.le_succ _

theorem room_le_of_visits (h : s.Visits p q) : q.room ≤ p.room := by
  induction h with
  | refl => exact Nat.le_refl _
  | tail _ hstep ih => exact Nat.le_trans (room_le_of_enters hstep) ih

/-- Each element around a site takes room. -/
theorem room_lt_of_standsIn (h : s.Visits p q) (hnode : q.node.StandsIn p.node) : q.room < p.room := by
  rcases Relation.ReflTransGen.cases_head h with rfl | ⟨r, hstep, hrest⟩
  · exact absurd rfl hnode.ne
  · have hroom := room_le_of_visits hrest
    cases hstep with
    | member => exact absurd hnode Node.not_standsIn_fragment
    | child | expansion => exact Nat.lt_succ_of_le hroom

theorem Reaches.room_add_le (h : s.Reaches root k q) : q.room + k ≤ root.room := by
  induction h with
  | outermost hvisits => exact room_le_of_visits hvisits
  | inside _ hvisits hnode ih =>
    have hroom := room_lt_of_standsIn hvisits hnode
    omega

end Surroundings

/-! ### The limit -/

/-- Elements that nest within the limit may be too deep all the same: each task makes a section around its children. -/
theorem nesting_not_limited :
    (Node.nestedIn "Task" (.text "x") 65).height ≤ maxDepth ∧
      (discover (Node.nestedIn "Task" (.text "x") 65) .standard .bare []).errors = [.props (.depthExceeded "Task" maxDepth)] ∧
      (render (Node.nestedIn "Task" (.text "x") 65) .standard .bare []).errors = [.props (.depthExceeded "Task" maxDepth)] := by
  decide +kernel

/-- Elements that stand for a section or an item around their children count twice, and what a prompt fills in counts as
    inside of it. If the elements inside each other count for no more than the limit anywhere in the tree, no pass reports
    an element as too deep. An element with as many elements of the tree around it as the limit allows is never rendered,
    but reported. -/
theorem nesting_limited (tree : Node) (ctx : Context) (answers : Fields) :
    (tree.Fits maxDepth → ∀ tag limit,
      .props (.depthExceeded tag limit) ∉ (discover tree .standard ctx answers).errors ∧
      .props (.depthExceeded tag limit) ∉ (render tree .standard ctx answers).errors) ∧
    ∀ (mode : Mode) (around room : Nat) (scope : Scope) (tag : String) (props : Fields) (children : List Node),
      Surroundings.Reaches ⟨.standard, ctx⟩ ⟨maxDepth, ⟨answers, []⟩, tree⟩ around
        ⟨room, scope, .element tag props children⟩ → maxDepth ≤ around →
      ∀ sections d, Setting.element ⟨⟨.standard, ctx⟩, mode⟩ room tag props children scope sections d =
        d.skip (.depthExceeded tag maxDepth) := by
  refine ⟨fun h tag limit => ⟨?_, ?_⟩, ?_⟩
  · exact Setting.run_shallow (s := ⟨⟨.standard, ctx⟩, .discovery⟩) rfl h answers tag limit
  · exact Setting.run_shallow (s := ⟨⟨.standard, ctx⟩, .final⟩) rfl h answers tag limit
  · intro mode around room scope tag props children hreaches haround sections d
    have hroom : room + around ≤ maxDepth := hreaches.room_add_le
    obtain rfl : room = 0 := by omega
    rfl

/-! Elements of one tag inside each other. -/

namespace Node
variable {tag : String} {n : Node}

theorem Fits.nestedIn {room levels : Nat} (htag : tag ≠ "Prompt") (hlevels : Registry.standard.levels tag = levels)
    (h : n.Fits room) : ∀ count, (Node.nestedIn tag n count).Fits (room + count * levels)
  | 0 => by
    rw [Nat.zero_mul]
    exact h
  | count + 1 => by
    have hroom : room + (count + 1) * levels = room + count * levels + levels := by
      rw [Nat.add_one_mul, Nat.add_assoc]
    rw [hroom]
    refine of_not_prompt (hlevels ▸ Nat.le_add_left _ _) htag (List.forall_mem_singleton.mpr ?_)
    rw [hlevels, Nat.add_sub_cancel]
    exact h.nestedIn htag hlevels count

/-- The walk comes to each of the fragments inside each other. -/
theorem reaches_nestedIn {s : Surroundings} (hs : s.registry = Registry.standard) (scope : Scope) :
    ∀ around room inner : Nat, s.Reaches ⟨room + around, scope, Node.nestedIn "Fragment" n (inner + 1 + around)⟩ around
      ⟨room, scope, Node.nestedIn "Fragment" n (inner + 1)⟩
  | 0, _, _ => .outermost .refl (List.mem_singleton_self _)
  | around + 1, room, inner => by
    have hbefore := reaches_nestedIn hs scope around (room + 1) (inner + 1)
    rw [Nat.add_right_comm room, Nat.add_right_comm (inner + 1)] at hbefore
    refine .inside hbefore (.single ?_) (.intro (List.mem_append_left _ (List.mem_singleton_self _)))
    have hhandles : s.Handles Intrinsic.fragment.tag [] scope [] (.intrinsic .fragment) :=
      Surroundings.handles_intrinsic hs rfl (by decide +kernel)
    exact .child hhandles (List.mem_singleton_self _) (List.mem_singleton_self _)

end Node

/-- There is room for one task less than there was above, and of fragments inside each other the last is reported. -/
theorem nesting_limited_tasks :
    ((Node.nestedIn "Task" (.text "x") 64).Fits maxDepth ∧ ∀ tag limit,
      .props (.depthExceeded tag limit) ∉ (discover (Node.nestedIn "Task" (.text "x") 64) .standard .bare []).errors ∧
      .props (.depthExceeded tag limit) ∉ (render (Node.nestedIn "Task" (.text "x") 64) .standard .bare []).errors) ∧
    Surroundings.Reaches ⟨.standard, .bare⟩ ⟨maxDepth, ⟨[], []⟩, Node.nestedIn "Fragment" (.text "leaf") 129⟩ 128
      ⟨0, ⟨[], []⟩, .element "Fragment" [] [.text "leaf"]⟩ ∧ maxDepth ≤ 128 ∧
    ∀ d, Setting.element ⟨⟨.standard, .bare⟩, .final⟩ 0 "Fragment" [] [.text "leaf"] ⟨[], []⟩ 0 d =
      d.skip (.depthExceeded "Fragment" maxDepth) := by
  have hlevels : Registry.standard.levels "Task" = 2 := by decide +kernel
  have htext : (Node.text "x").Fits 0 := .text "x"
  have hfits : (Node.nestedIn "Task" (.text "x") 64).Fits maxDepth := htext.nestedIn (by decide) hlevels 64
  have hreaches : Surroundings.Reaches ⟨.standard, .bare⟩ ⟨maxDepth, ⟨[], []⟩, Node.nestedIn "Fragment" (.text "leaf") 129⟩ 128
      ⟨0, ⟨[], []⟩, .element "Fragment" [] [.text "leaf"]⟩ :=
    Node.reaches_nestedIn rfl ⟨[], []⟩ 128 0 0
  refine ⟨⟨hfits, (nesting_limited _ .bare []).1 hfits⟩, hreaches, Nat.le_refl _, ?_⟩
  exact (nesting_limited _ .bare []).2 .final 128 0 _ _ _ _ hreaches (Nat.le_refl _) 0

end PromptForm
