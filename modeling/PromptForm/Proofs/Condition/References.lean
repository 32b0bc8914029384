import PromptForm.Proofs.Growth.Scope

/-! # The names that a condition reads

A place in a formula says which part to enter, part by part, and places are ordered from left to right. The references of a
condition are the names that stand anywhere in its formula, each once, in the order in which they are met
(`Condition.references_ordered`). Nothing else is read from a scope, whatever is left out of a conjunction or a disjunction
that is decided: so a condition waits for all that can change it (`Condition.references_complete`). -/

namespace PromptForm

namespace Formula

/-- The formulas that a formula is made of, from left to right. -/
def parts : Formula → List Formula
  | .literal _ | .name _ => []
  | .negation inner | .blank inner => [inner]
  | .conjunction items | .disjunction items => items
  | .compare _ left right => [left, right]

/-- The formula at a place in a formula. -/
def at? : List Nat → Formula → Option Formula
  | [], f => some f
  | i :: place, f => f.parts[i]?.bind (at? place)

/-- A name stands at a place. -/
def Stands (f : Formula) (place : List Nat) (name : String) : Prop := f.at? place = some (.name name)

/-- A name is met before another one: it stands somewhere to the left of every place where the other one stands. -/
def MetBefore (f : Formula) (m n : String) : Prop := ∃ p, f.Stands p m ∧ ∀ q, f.Stands q n → p < q

/-- A name stands in one of some parts, which are counted from `i` on. -/
def StandsFrom (i : Nat) (fs : List Formula) (place : List Nat) (name : String) : Prop :=
  ∃ j inner, place = (i + j) :: inner ∧ ∃ f, fs[j]? = some f ∧ f.Stands inner name

/-- Occurrences of names: in their order the names, and exactly the places where each of them stands, from left to right. -/
structure Index (names : List String) (stands : List Nat → String → Prop) (entries : List (List Nat × String)) : Prop where
  names : entries.map (·.2) = names
  mem : ∀ p n, (p, n) ∈ entries ↔ stands p n
  sorted : entries.Pairwise (·.1 < ·.1)

variable {f : Formula} {fs : List Formula} {i : Nat} {entries more : List (List Nat × String)}

theorem standsFrom_cons {p : List Nat} {n : String} :
    StandsFrom i (f :: fs) p n ↔ (∃ q, p = i :: q ∧ f.Stands q n) ∨ StandsFrom (i + 1) fs p n := by
  constructor
  · rintro ⟨j, q, rfl, g, hg, hq⟩
    cases j with
    | zero =>
      cases Option.some.inj hg
      exact .inl ⟨q, rfl, hq⟩
    | succ j => exact .inr ⟨j, q, by rw [Nat.add_right_comm, Nat.add_assoc], g, hg, hq⟩
  · rintro (⟨q, rfl, hq⟩ | ⟨j, q, rfl, g, hg, hq⟩)
    · exact ⟨0, q, rfl, f, rfl, hq⟩
    · exact ⟨j + 1, q, by rw [Nat.add_right_comm, Nat.add_assoc], g, hg, hq⟩

/-- In a formula that is no name itself a name stands in one of the parts. -/
theorem stands_iff_standsFrom (hf : ∀ path, f ≠ .name path) {p : List Nat} {n : String} :
    f.Stands p n ↔ StandsFrom 0 f.parts p n := by
  cases p with
  | nil => simp [Stands, StandsFrom, at?, hf]
  | cons i p =>
    simp only [Stands, StandsFrom, at?, Option.bind_eq_some_iff, Nat.zero_add, List.cons.injEq]
    exact ⟨fun h => ⟨i, p, ⟨rfl, rfl⟩, h⟩, fun ⟨_, _, ⟨hi, hp⟩, h⟩ => hi ▸ hp ▸ h⟩

namespace Index

theorem nil : Index (namesOf []) (StandsFrom i []) [] := ⟨rfl, by simp [StandsFrom], .nil⟩

theorem cons (h : Index f.names f.Stands entries) (hs : Index (namesOf fs) (StandsFrom (i + 1) fs) more) :
    Index (namesOf (f :: fs)) (StandsFrom i (f :: fs)) (entries.map (fun e => (i :: e.1, e.2)) ++ more) where
  names := by
    rw [List.map_append, List.map_map, hs.names, namesOf, ← h.names]
    rfl
  mem p n := by
    rw [standsFrom_cons, List.mem_append, hs.mem]
    refine or_congr_left ?_
    simp only [List.mem_map, Prod.mk.injEq]
    constructor
    · rintro ⟨⟨q, m⟩, hmem, rfl, rfl⟩
      exact ⟨q, rfl, (h.mem q m).mp hmem⟩
    · rintro ⟨q, rfl, hq⟩
      exact ⟨(q, n), (h.mem q n).mpr hq, rfl, rfl⟩
  sorted := by
    refine List.pairwise_append.mpr ⟨?_, hs.sorted, ?_⟩
    · exact List.pairwise_map.mpr (h.sorted.imp fun hlt => List.cons_lt_cons_iff.mpr (.inr ⟨rfl, hlt⟩))
    · rintro _ hp ⟨_, n⟩ hq
      obtain ⟨e, -, rfl⟩ := List.mem_map.mp hp
      obtain ⟨j, q, rfl, -⟩ := (hs.mem _ n).mp hq
      exact List.cons_lt_cons_iff.mpr (.inl (by omega))

/-- The index of the parts is that of the formula. -/
theorem of_parts (hf : ∀ path, f ≠ .name path) (hnames : namesOf f.parts = f.names)
    (h : Index (namesOf f.parts) (StandsFrom 0 f.parts) entries) : Index f.names f.Stands entries where
  names := h.names.trans hnames
  mem p n := (h.mem p n).trans (stands_iff_standsFrom hf).symm
  sorted := h.sorted

end Index

mutual
/-- The names of a formula can be listed with their places. -/
theorem exists_index : ∀ f : Formula, ∃ entries, Index f.names f.Stands entries
  | .literal _ => ⟨[], .of_parts nofun rfl .nil⟩
  | .name path => by
    refine ⟨[([], path)], rfl, fun p n => ?_, List.pairwise_singleton _ _⟩
    cases p with
    | nil => simp [Stands, at?, eq_comm]
    | cons i p => simp [Stands, at?, parts]
  | .negation inner =>
    let ⟨_, h⟩ := exists_index inner
    ⟨_, .of_parts nofun (List.append_nil _) (.cons h .nil)⟩
  | .conjunction items =>
    let ⟨_, h⟩ := exists_indexFrom items 0
    ⟨_, .of_parts nofun rfl h⟩
  | .disjunction items =>
    let ⟨_, h⟩ := exists_indexFrom items 0
    ⟨_, .of_parts nofun rfl h⟩
  | .blank inner =>
    let ⟨_, h⟩ := exists_index inner
    ⟨_, .of_parts nofun (List.append_nil _) (.cons h .nil)⟩
  | .compare _ left right =>
    let ⟨_, hleft⟩ := exists_index left
    let ⟨_, hright⟩ := exists_index right
    ⟨_, .of_parts nofun (congrArg (left.names ++ ·) (List.append_nil _)) (.cons hleft (.cons hright .nil))⟩
termination_by structural f => f
theorem exists_indexFrom : ∀ (fs : List Formula) (i : Nat), ∃ entries, Index (namesOf fs) (StandsFrom i fs) entries
  | [], _ => ⟨[], .nil⟩
  | f :: fs, i =>
    let ⟨_, h⟩ := exists_index f
    let ⟨_, hs⟩ := exists_indexFrom fs (i + 1)
    ⟨_, .cons h hs⟩
termination_by structural fs => fs
end

end Formula

/-! ### References -/

namespace Condition
open Formula (Index)

theorem firstUses_sublist : ∀ ns : List String, (firstUses ns).Sublist ns
  | [] => .slnil
  | n :: ns => (List.filter_sublist.trans (firstUses_sublist ns)).cons_cons n

theorem firstUses_nodup : ∀ ns : List String, (firstUses ns).Nodup
  | [] => .nil
  | _ :: ns => List.nodup_cons.mpr ⟨by simp, (firstUses_nodup ns).filter _⟩

/-- Of listed occurrences the first use of each name is kept, so that of two names kept the first stands to the left of
    all occurrences of the second. -/
theorem firstUses_ordered : ∀ {entries : List (List Nat × String)}, entries.Pairwise (·.1 < ·.1) →
    (firstUses (entries.map (·.2))).Pairwise fun m n => ∃ p, (p, m) ∈ entries ∧ ∀ q, (q, n) ∈ entries → p < q
  | [], _ => .nil
  | (first, name) :: entries, h => by
    obtain ⟨hfirst, hrest⟩ := List.pairwise_cons.mp h
    -- Another name than the first one stands only in the rest, where the induction applies.
    have hne : ∀ {n}, n ∈ (firstUses (entries.map (·.2))).filter (· != name) → n ≠ name := fun hn =>
      bne_iff_ne.mp (List.mem_filter.mp hn).2
    have htail : ∀ {n q}, n ≠ name → (q, n) ∈ (first, name) :: entries → (q, n) ∈ entries := fun hn hq =>
      (List.mem_cons.mp hq).resolve_left fun heq => hn (Prod.mk.inj heq).2
    refine List.pairwise_cons.mpr ⟨fun n hn => ?_, ?_⟩
    · exact ⟨first, List.mem_cons_self, fun q hq => hfirst _ (htail (hne hn) hq)⟩
    · refine ((firstUses_ordered hrest).filter _).imp_of_mem fun _ hn hmet => ?_
      obtain ⟨p, hp, hbefore⟩ := hmet
      exact ⟨p, List.mem_cons_of_mem _ hp, fun q hq => hbefore q (htail (hne hn) hq)⟩

theorem mem_references {c : Condition} {n : String} : n ∈ c.references ↔ ∃ p, c.formula.Stands p n := by
  obtain ⟨entries, hindex⟩ := c.formula.exists_index
  have hnames : n ∈ c.references ↔ n ∈ c.formula.names :=
    ⟨fun h => (firstUses_sublist _).subset h, mem_firstUses⟩
  rw [hnames, ← hindex.names, List.mem_map]
  constructor
  · rintro ⟨⟨p, m⟩, hmem, rfl⟩
    exact ⟨p, (hindex.mem p m).mp hmem⟩
  · rintro ⟨p, hp⟩
    exact ⟨(p, n), (hindex.mem p n).mpr hp, rfl⟩

theorem references_ordered (c : Condition) : c.references.Pairwise c.formula.MetBefore := by
  obtain ⟨entries, hindex⟩ := c.formula.exists_index
  have hordered := firstUses_ordered hindex.sorted
  rw [hindex.names] at hordered
  refine hordered.imp fun ⟨p, hp, hbefore⟩ => ?_
  exact ⟨p, (hindex.mem p _).mp hp, fun q hq => hbefore q ((hindex.mem q _).mpr hq)⟩

/-- The references of a condition are the names that stand in its formula, each once and in the order in which they are
    met. A condition holds alike wherever they mean the same. So once all of them have a meaning, more answers do not
    change it, though a conjunction or a disjunction may be decided before all of them are looked up. -/
theorem references_complete (c : Condition) :
    (∀ a b : Scope, (∀ n ∈ c.references, a.get n = b.get n) → c.holds a = c.holds b) ∧
    c.references.Nodup ∧
    (∀ n, n ∈ c.references ↔ ∃ place, c.formula.Stands place n) ∧
    c.references.Pairwise c.formula.MetBefore ∧
    ∀ (scope : Scope) (later : Fields), (∀ n ∈ c.references, scope.isResolved n = true) → Fields.Kept scope.answers later →
      c.holds (scope.answering later) = c.holds scope := by
  refine ⟨fun a b h => ?_, firstUses_nodup _, fun n => mem_references, references_ordered c, fun scope later h hkept => ?_⟩
  · exact holds_congr fun n hn => h n (mem_firstUses hn)
  · exact (holds_answering hkept (List.all_eq_true.mpr h)).2

/-- A path that stands on both sides of a name. -/
def adultOrGuest : Condition where
  source := "user.age >= 18 && (guest || !user.age)"
  formula := .conjunction [.compare .ge (.name "user.age") (.literal (Value.int 18)),
    .disjunction [.name "guest", .negation (.name "user.age")]]

/-- A guest stays one when the topic is answered too. -/
theorem references_complete_guest :
    let answers : Fields := [("guest", .bool true), ("user", .object [("age", Value.int 30)])]
    let later := Fields.insert "topic" (.string "tea") answers
    adultOrGuest.references = ["user.age", "guest"] ∧
    (∀ n ∈ adultOrGuest.references, Scope.isResolved ⟨answers, []⟩ n = true) ∧ Fields.Kept answers later ∧
    adultOrGuest.holds ⟨later, []⟩ = adultOrGuest.holds ⟨answers, []⟩ := by
  intro answers later
  have hresolved : ∀ n ∈ adultOrGuest.references, Scope.isResolved ⟨answers, []⟩ n = true := by decide +kernel
  have hkept : Fields.Kept answers later := Fields.Kept.insert (by decide +kernel) _
  obtain ⟨-, -, -, -, hmore⟩ := references_complete adultOrGuest
  exact ⟨by decide +kernel, hresolved, hkept, hmore ⟨answers, []⟩ later hresolved hkept⟩

end Condition
end PromptForm
