import PromptForm.Proofs.Locality.Scope

/-! # Settling

A sequence settles if it is constant from some point on. What is computed from parts that settle settles, also
where the way to compute it depends on the parts (`Settles.bind`). Answers that are only ever added settle at
each single name, and so does everything that is read from finitely many names of a scope. -/

namespace PromptForm

/-- Constant from some point on. -/
def Settles {α : Type} (f : Nat → α) : Prop := ∃ k, ∀ m, k ≤ m → f m = f k

namespace Settles
variable {α β γ : Type} {f : Nat → α}

theorem const (a : α) : Settles fun _ => a := ⟨0, fun _ _ => rfl⟩

/-- What is computed from a part that settles settles if it does for each value of the part. -/
theorem bind {g : α → Nat → β} (hf : Settles f) (hg : ∀ a, Settles (g a)) : Settles fun k => g (f k) k := by
  obtain ⟨i, hi⟩ := hf
  obtain ⟨j, hj⟩ := hg (f i)
  have hlate : ∀ m, max i j ≤ m → g (f m) m = g (f i) j := fun m hm => by
    rw [hi m (by omega), hj m (by omega)]
  exact ⟨max i j, fun m hm => (hlate m hm).trans (hlate _ (Nat.le_refl _)).symm⟩

theorem map (g : α → β) (hf : Settles f) : Settles fun k => g (f k) :=
  hf.bind fun a => const (g a)

theorem map₂ {h : Nat → β} (g : α → β → γ) (hf : Settles f) (hh : Settles h) : Settles fun k => g (f k) (h k) :=
  hf.bind fun a => hh.map (g a)

/-- The value at which a sequence settles. -/
theorem eventually (hf : Settles f) : ∃ a k, ∀ m, k ≤ m → f m = a :=
  let ⟨k, hk⟩ := hf
  ⟨f k, k, hk⟩

/-- What agrees from some point on with a sequence that settles, settles. -/
theorem of_later {g : Nat → α} (hf : Settles f) (i : Nat) (h : ∀ m, i ≤ m → g m = f m) : Settles g := by
  obtain ⟨k, hk⟩ := hf
  refine ⟨max i k, fun m hm => ?_⟩
  rw [h m (by omega), h (max i k) (by omega), hk m (by omega), hk (max i k) (by omega)]

/-- Finitely many sequences settle together. -/
theorem forall_mem {ι : Type} {f : ι → Nat → α} : ∀ {is : List ι}, (∀ i ∈ is, Settles (f i)) →
    ∃ k, ∀ i ∈ is, ∀ m, k ≤ m → f i m = f i k
  | [], _ => ⟨0, by simp⟩
  | i :: is, h => by
    obtain ⟨k, hk⟩ := h i List.mem_cons_self
    obtain ⟨l, hl⟩ := forall_mem fun j hj => h j (List.mem_cons_of_mem i hj)
    refine ⟨max k l, fun j hj m hm => ?_⟩
    rcases List.mem_cons.mp hj with rfl | hj
    · rw [hk m (by omega), hk (max k l) (by omega)]
    · rw [hl j hj m (by omega), hl j hj (max k l) (by omega)]

/-- A sequence that never changes once it has a value settles. -/
theorem of_kept {f : Nat → Option α} (h : ∀ k a, f k = some a → f (k + 1) = some a) : Settles f := by
  by_cases hnone : ∀ k, f k = none
  · exact ⟨0, fun m _ => by rw [hnone m, hnone 0]⟩
  · obtain ⟨k, hk⟩ := Classical.not_forall.mp hnone
    obtain ⟨a, ha⟩ := Option.ne_none_iff_exists'.mp hk
    have hlate : ∀ d, f (k + d) = some a := fun d => by
      induction d with
      | zero => exact ha
      | succ d ih => exact h (k + d) a ih
    refine ⟨k, fun m hm => ?_⟩
    obtain ⟨d, rfl⟩ := Nat.exists_eq_add_of_le hm
    rw [hlate d, ha]

/-- Mapping a list with functions that settle at each item settles. -/
theorem mapM {ε : Type} {f : Nat → α → Except ε β} : ∀ {xs : List α}, (∀ x ∈ xs, Settles fun k => f k x) →
    Settles fun k => xs.mapM (f k)
  | [], _ => by simpa only [List.mapM_nil] using const _
  | x :: xs, h => by
    simp only [List.mapM_cons]
    exact map₂ (fun first rest => first >>= fun y => rest >>= fun ys => pure (y :: ys)) (h x List.mem_cons_self)
      (mapM fun y hy => h y (List.mem_cons_of_mem x hy))

end Settles

/-! ### Scopes -/

/-- Each name keeps its meaning from some point on. -/
def Steady (scopes : Nat → Scope) : Prop := ∀ n, Settles fun k => (scopes k).root? n

namespace Steady
variable {scopes : Nat → Scope}

theorem bind (h : Steady scopes) (name : String) (v : Value) : Steady fun k => (scopes k).bind name v := by
  intro n
  simp only [Scope.root?_bind]
  split
  · exact Settles.const _
  · exact h n

theorem inRound (h : Steady scopes) (binding : String) (index : Option String) (i : Nat) (item : Value) :
    Steady fun k => (scopes k).inRound binding index i item := by
  cases index with
  | none => exact h.bind binding item
  | some name => exact (h.bind binding item).bind name (Value.int i)

/-- What depends on finitely many names settles. -/
theorem settles_of_reads {α : Type} (h : Steady scopes) {read : Scope → α} (names : List String)
    (hread : ∀ a b : Scope, (∀ n ∈ names, a.root? n = b.root? n) → read a = read b) :
    Settles fun k => read (scopes k) := by
  obtain ⟨k, hk⟩ : ∃ k, ∀ n ∈ names, ∀ m, k ≤ m → (scopes m).root? n = (scopes k).root? n :=
    Settles.forall_mem fun n _ => h n
  exact ⟨k, fun m hm => hread _ _ fun n hn => hk n hn m hm⟩

theorem settles_get (h : Steady scopes) (path : String) : Settles fun k => (scopes k).get path :=
  h.settles_of_reads [Scope.rootOf path] fun _ _ hab => Scope.get_congr (hab _ List.mem_cons_self)

theorem settles_isResolved (h : Steady scopes) (path : String) : Settles fun k => (scopes k).isResolved path :=
  h.settles_of_reads [Scope.rootOf path] fun _ _ hab => Scope.isResolved_congr (hab _ List.mem_cons_self)

theorem settles_expand (h : Steady scopes) (s : Surroundings) (text : String) :
    Settles fun k => s.expand (scopes k) text :=
  h.settles_of_reads (Template.namesRead text) fun _ _ => s.expand_congr

theorem settles_holds (h : Steady scopes) (c : Condition) : Settles fun k => c.holds (scopes k) :=
  h.settles_of_reads (c.formula.names.map Scope.rootOf) fun _ _ hab =>
    Condition.holds_congr fun n hn => Scope.get_congr (hab _ (List.mem_map.mpr ⟨n, hn, rfl⟩))

theorem settles_any (p : String → Scope → Bool) (hp : ∀ n, Settles fun k => p n (scopes k)) :
    ∀ names : List String, Settles fun k => names.any fun n => p n (scopes k)
  | [] => Settles.const false
  | n :: names => by
    simp only [List.any_cons]
    exact Settles.map₂ (· || ·) (hp n) (settles_any p hp names)

/-- Whether a name is decided settles. -/
theorem settles_isUndecided (h : Steady scopes) (prop : Option Value) :
    Settles fun k => Surroundings.isUndecided (scopes k) prop := by
  unfold Surroundings.isUndecided
  split
  · rename_i text
    cases Template.namesIn text with
    | error m => exact Settles.const _
    | ok names =>
      refine (settles_any (fun n scope => n != "env" && !scope.isResolved n) (fun n => ?_) names).map Except.ok
      exact (h.settles_isResolved n).map fun resolved => n != "env" && !resolved
  · exact Settles.const _

theorem settles_expandText (h : Steady scopes) (s : Surroundings) (v : Value) :
    Settles fun k => s.expandText (scopes k) v := by
  cases v with
  | string text => exact (h.settles_expand s text).map (Except.map Value.string)
  | _ => exact Settles.const _

theorem settles_expandValue (h : Steady scopes) (s : Surroundings) (v : Value) :
    Settles fun k => s.expandValue (scopes k) v := by
  unfold Surroundings.expandValue
  split
  · exact (Settles.mapM fun item _ => h.settles_expandText s item).map (Except.map Value.list)
  · exact h.settles_expandText s _

theorem settles_expandProps (h : Steady scopes) (s : Surroundings) (props : Fields) :
    Settles fun k => s.expandProps (scopes k) props :=
  Settles.mapM fun (key, v) _ => (h.settles_expandValue s v).map (Except.map (key, ·))

theorem settles_isWaiting (h : Steady scopes) (s : Surroundings) (tag : String) (props : Fields) :
    Settles fun k => s.isWaiting tag props (scopes k) := by
  unfold Surroundings.isWaiting
  split
  · exact h.settles_isUndecided _
  · exact Settles.const _

theorem settles_loopItems (h : Steady scopes) (prop : Option Value) :
    Settles fun k => loopItems (scopes k) prop := by
  unfold loopItems
  split
  · rename_i name
    obtain ⟨k, hk⟩ := h.settles_get (Text.trimmed name)
    exact ⟨k, fun m hm => by simp only [hk m hm]⟩
  · exact Settles.const _
  · exact Settles.const _

end Steady
end PromptForm
