import PromptForm.Proofs.Growth.NamesOnly

/-! # Trees without templates

In an unmarked tree no text is a template, neither author text nor a text in a prop, at any depth. A prompt reads
nodes from the values of its slots, and what is read from an unmarked value is an unmarked node. So templates stand
nowhere in an unmarked tree, the names of inputs included (`Node.isUnmarked_namesOnly`). -/

namespace PromptForm

namespace Value

mutual
/-- No text in the value is a template, at any depth. -/
def isUnmarked : Value → Bool
  | .null | .bool _ | .number _ => true
  | .string text => !Template.isMarked text
  | .list items => areUnmarked items
  | .object fields => fieldsUnmarked fields
termination_by structural v => v
def areUnmarked : List Value → Bool
  | [] => true
  | v :: vs => isUnmarked v && areUnmarked vs
termination_by structural vs => vs
def fieldsUnmarked : List (String × Value) → Bool
  | [] => true
  | (_, v) :: fields => isUnmarked v && fieldsUnmarked fields
termination_by structural fields => fields
end

theorem areUnmarked_iff {vs : List Value} : areUnmarked vs = true ↔ ∀ v ∈ vs, v.isUnmarked = true := by
  induction vs with
  | nil => simp [areUnmarked]
  | cons v vs ih => simp [areUnmarked, ih]

theorem fieldsUnmarked_iff {fields : Fields} :
    fieldsUnmarked fields = true ↔ ∀ k v, (k, v) ∈ fields → v.isUnmarked = true := by
  induction fields with
  | nil => simp [fieldsUnmarked]
  | cons field fields ih =>
    obtain ⟨k, v⟩ := field
    simp only [fieldsUnmarked, Bool.and_eq_true, ih, List.mem_cons, Prod.mk.injEq]
    exact ⟨fun ⟨hv, hfields⟩ k' v' hmem => hmem.elim (fun heq => heq.2 ▸ hv) (hfields k' v'),
      fun h => ⟨h k v (.inl ⟨rfl, rfl⟩), fun k' v' hmem => h k' v' (.inr hmem)⟩⟩

theorem isUnmarked_string {text : String} : (Value.string text).isUnmarked = true ↔ Template.isMarked text = false := by
  simp [isUnmarked]

theorem plain_of_isUnmarked {v : Value} (h : v.isUnmarked = true) : v.Plain := by
  intro text htext
  cases v with
  | string t =>
    cases List.mem_singleton.mp htext
    exact isUnmarked_string.mp h
  | list items =>
    obtain ⟨item, hitem, hstring⟩ := List.mem_filterMap.mp htext
    cases item with
    | string t =>
      cases hstring
      exact isUnmarked_string.mp (areUnmarked_iff.mp h _ hitem)
    | _ => cases hstring
  | _ => cases htext

/-- A value inside another one, at any depth. -/
inductive Inside : Value → Value → Prop where
  | item {v vs} (h : v ∈ vs) : Inside v (.list vs)
  | field {k v fields} (h : (k, v) ∈ fields) : Inside v (.object fields)
  | trans {u v w} (h : Inside u v) (h' : Inside v w) : Inside u w

namespace Inside
variable {v w : Value}

theorem sizeOf_lt (h : Inside v w) : sizeOf v < sizeOf w := by
  induction h with
  | item h =>
    have hlist := List.sizeOf_lt_of_mem h
    simp only [Value.list.sizeOf_spec]
    omega
  | field h =>
    have hpair := List.sizeOf_lt_of_mem h
    simp only [Prod.mk.sizeOf_spec] at hpair
    simp only [Value.object.sizeOf_spec]
    omega
  | trans _ _ ih ih' => exact Nat.lt_trans ih ih'

theorem isUnmarked (h : Inside v w) (hw : w.isUnmarked = true) : v.isUnmarked = true := by
  induction h with
  | item h => exact areUnmarked_iff.mp hw _ h
  | field h => exact fieldsUnmarked_iff.mp hw _ _ h
  | trans _ _ ih ih' => exact ih (ih' hw)

end Inside
end Value

namespace Node

mutual
/-- Neither author text nor a text in the props is a template, at any depth. -/
def isUnmarked : Node → Bool
  | .empty | .literal _ => true
  | .text template => !Template.isMarked template
  | .fragment nodes => areUnmarked nodes
  | .element _ props children => Value.fieldsUnmarked props && areUnmarked children
termination_by structural n => n
def areUnmarked : List Node → Bool
  | [] => true
  | n :: ns => isUnmarked n && areUnmarked ns
termination_by structural ns => ns
end

/-! ### Nodes read from values -/

theorem mem_ofValues? : ∀ {vs : List Value} {ns : List Node}, ofValues? vs = some ns →
    ∀ n ∈ ns, ∃ v ∈ vs, ofValue? v = some n
  | [], _, h, _, hn => by
    cases h
    cases hn
  | v :: vs, ns, h, n, hn => by
    unfold ofValues? at h
    split at h
    · rename_i m ms hm hms
      cases h
      rcases List.mem_cons.mp hn with rfl | hn
      · exact ⟨v, List.mem_cons_self, hm⟩
      · obtain ⟨w, hw, hread⟩ := mem_ofValues? hms n hn
        exact ⟨w, List.mem_cons_of_mem v hw, hread⟩
    · cases h

theorem childrenIn?_list : ∀ {fields : Fields} {ns : List Node}, childrenIn? fields = some ns →
    ns = [] ∨ ∃ vs, ("children", .list vs) ∈ fields ∧ ofValues? vs = some ns
  | [], _, h => .inl (Option.some.inj h).symm
  | (k, v) :: fields, ns, h => by
    unfold childrenIn? at h
    split at h
    · rename_i hk
      subst hk
      split at h
      · exact .inr ⟨_, List.mem_cons_self, h⟩
      · cases h
    · exact (childrenIn?_list h).imp_right fun ⟨vs, hmem, hns⟩ => ⟨vs, List.mem_cons_of_mem _ hmem, hns⟩

theorem headOf?_props {fields : Fields} {tag : String} {props : Fields} (h : headOf? fields = some (tag, props)) :
    props = [] ∨ ("props", .object props) ∈ fields := by
  unfold headOf? at h
  split at h
  · cases h
  · split at h
    · cases h
      exact .inl rfl
    · rename_i hprops
      cases h
      exact .inr (Fields.mem_of_get? hprops)
    · cases h

/-- The nodes are read from values inside another one. -/
def ReadInside (v : Value) (ns : List Node) : Prop := ∀ n ∈ ns, ∃ w, w.Inside v ∧ ofValue? w = some n

theorem readInside_list {vs : List Value} {ns : List Node} (h : ofValues? vs = some ns) : ReadInside (.list vs) ns :=
  fun n hn =>
    let ⟨w, hw, hread⟩ := mem_ofValues? h n hn
    ⟨w, .item hw, hread⟩

theorem ReadInside.trans {v w : Value} {ns : List Node} (h : ReadInside v ns) (hvw : v.Inside w) : ReadInside w ns :=
  fun n hn =>
    let ⟨u, hu, hread⟩ := h n hn
    ⟨u, hu.trans hvw, hread⟩

theorem byPosition?_inside {vs : List Value} {n : Node} (h : byPosition? vs = some n) :
    ∃ tag props children, n = .element tag props children ∧ (Value.object props).Inside (.list vs) ∧
      ReadInside (.list vs) children := by
  unfold byPosition? at h
  split at h
  · cases h
    exact ⟨_, _, [], rfl, .item (by simp), nofun⟩
  · obtain ⟨ns, hns, rfl⟩ := Option.map_eq_some_iff.mp h
    exact ⟨_, _, ns, rfl, .item (by simp), (readInside_list hns).trans (.item (by simp))⟩
  · cases h

/-- What is read from a value: text is the value itself, the nodes below and the props are read from values inside. -/
theorem ofValue?_inside {v : Value} {n : Node} (h : ofValue? v = some n) :
    n = .empty ∨ (∃ text, n = .text text ∧ v = .string text) ∨ (∃ nodes, n = .fragment nodes ∧ ReadInside v nodes) ∨
      ∃ tag props children, n = .element tag props children ∧ (props = [] ∨ (Value.object props).Inside v) ∧
        ReadInside v children := by
  cases v with
  | null => exact .inl (Option.some.inj h).symm
  | string text => exact .inr (.inl ⟨text, (Option.some.inj h).symm, rfl⟩)
  | bool b => cases h
  | number x => cases h
  -- A list is one of nodes, or else an element by position.
  | list vs =>
    unfold ofValue? at h
    split at h
    · rename_i nodes hnodes
      exact .inr (.inr (.inl ⟨nodes, (Option.some.inj h).symm, readInside_list hnodes⟩))
    · obtain ⟨tag, props, children, hn, hprops, hchildren⟩ := byPosition?_inside h
      exact .inr (.inr (.inr ⟨tag, props, children, hn, .inr hprops, hchildren⟩))
  | object fields =>
    unfold ofValue? at h
    split at h
    · rename_i tag props children hhead hchildren
      refine .inr (.inr (.inr ⟨tag, props, children, (Option.some.inj h).symm, ?_, ?_⟩))
      · exact (headOf?_props hhead).imp_right .field
      · rcases childrenIn?_list hchildren with rfl | ⟨vs, hmem, hns⟩
        · exact nofun
        · exact (readInside_list hns).trans (.field hmem)
    · cases h

/-- A property of nodes that holds of what is read from good values. What stands inside a good value is good as well. -/
structure ReadFrom (good : Value → Prop) (P : Node → Prop) : Prop where
  inside : ∀ {v w : Value}, v.Inside w → good w → good v
  empty : P .empty
  text : ∀ {text}, good (.string text) → P (.text text)
  fragment : ∀ {nodes}, (∀ n ∈ nodes, P n) → P (.fragment nodes)
  element : ∀ {tag props children}, (∀ k v, (k, v) ∈ props → good v ∧ ∀ w n, w.Inside v → ofValue? w = some n → P n) →
    (∀ n ∈ children, P n) → P (.element tag props children)

namespace ReadFrom
variable {good : Value → Prop} {P : Node → Prop} {tag : String} {props : Fields} {children : List Node}

/-- The induction is on the size of the value: the slots of a prompt stand deep inside it, and nodes are read from them
    in turn. -/
theorem of_value (h : ReadFrom good P) (v : Value) (hv : good v) (n : Node) (hread : ofValue? v = some n) : P n := by
  have hinside : ∀ w : Value, w.Inside v → ∀ n, ofValue? w = some n → P n := fun w hw n hread =>
    have hsmall : sizeOf w < sizeOf v := hw.sizeOf_lt
    h.of_value w (h.inside hw hv) n hread
  have hnodes : ∀ ns, ReadInside v ns → ∀ n ∈ ns, P n := fun ns hns n hn =>
    let ⟨w, hw, hread⟩ := hns n hn
    hinside w hw n hread
  obtain rfl | ⟨text, rfl, rfl⟩ | ⟨nodes, rfl, hbelow⟩ | ⟨tag, props, children, rfl, hprops, hbelow⟩ := ofValue?_inside hread
  · exact h.empty
  · exact h.text hv
  · exact h.fragment (hnodes nodes hbelow)
  · refine h.element (fun k u hmem => ?_) (hnodes children hbelow)
    rcases hprops with rfl | hprops
    · cases hmem
    · have hu : u.Inside v := (Value.Inside.field hmem).trans hprops
      exact ⟨h.inside hu hv, fun w n hw => hinside w (hw.trans hu) n⟩
termination_by sizeOf v

/-- The nodes in the slots of a prompt are read from its props. -/
theorem of_props (h : ReadFrom good P) (hprops : ∀ k v, (k, v) ∈ props → good v) (hchildren : ∀ n ∈ children, P n) :
    P (.element tag props children) :=
  h.element (fun k v hmem => ⟨hprops k v hmem, fun w n hw => h.of_value w (h.inside hw (hprops k v hmem)) n⟩) hchildren

end ReadFrom

/-! ### No templates anywhere -/

section Templates
variable {registry : Registry} {form : Value → Prop}

theorem namesOnly_readFrom : ReadFrom (fun v => v.isUnmarked = true) (NamesOnly registry form) where
  inside := Value.Inside.isUnmarked
  empty := .empty
  text h := .text (Value.isUnmarked_string.mp h)
  fragment := .fragment
  element hprops hchildren :=
    .element (fun k v hmem => .inl (Value.plain_of_isUnmarked (hprops k v hmem).1))
      (fun slots _ v n hslots hslot => (hprops "slots" (.object slots) hslots).2 v n (.field hslot)) hchildren

mutual
/-- In an unmarked node templates stand nowhere. -/
theorem isUnmarked_namesOnly : ∀ n : Node, n.isUnmarked = true → n.NamesOnly registry form
  | .empty, _ => .empty
  | .text _, h => .text (by simpa [isUnmarked] using h)
  | .literal _, _ => .literal _
  | .fragment nodes, h => .fragment (areUnmarked_namesOnly nodes h)
  | .element _ _ children, h => by
    obtain ⟨hprops, hchildren⟩ := Bool.and_eq_true_iff.mp h
    exact namesOnly_readFrom.of_props (Value.fieldsUnmarked_iff.mp hprops) (areUnmarked_namesOnly children hchildren)
termination_by structural n => n
theorem areUnmarked_namesOnly : ∀ ns : List Node, areUnmarked ns = true → ∀ n ∈ ns, n.NamesOnly registry form
  | [], _ => nofun
  | n :: ns, h => by
    obtain ⟨hn, hns⟩ := Bool.and_eq_true_iff.mp h
    exact List.forall_mem_cons.mpr ⟨isUnmarked_namesOnly n hn, areUnmarked_namesOnly ns hns⟩
termination_by structural ns => ns
end

end Templates
end Node
end PromptForm
