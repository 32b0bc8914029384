import PromptForm.Proofs.Locality.Scope

/-! # Bindings in turn

A scope is made of answers by bindings, each of which may hide what stood under its name. Conditions look a name up from the
innermost binding outward, while templates get all names at once, written over each other from the answers inward. Both
find the same: the last binding of the name, else its answer (`Scope.templateFields_bindAll`). -/

namespace PromptForm

namespace Fields
variable {α : Type} {n : String} {v : α}

theorem get?_eq_none : ∀ {fields : List (String × α)}, (∀ w, (n, w) ∉ fields) → get? n fields = none
  | [], _ => rfl
  | (k, v) :: fields, h => by
    have hne : k ≠ n := fun heq => h v (heq ▸ List.mem_cons_self)
    rw [get?, if_neg hne]
    exact get?_eq_none fun w hw => h w (List.mem_cons_of_mem _ hw)

/-- Read from its end, a list of pairs has the last value for a key. -/
theorem get?_reverse_last {front rest : List (String × α)} (h : ∀ w, (n, w) ∉ rest) :
    get? n (front ++ (n, v) :: rest).reverse = some v := by
  have hrest : get? n rest.reverse = none := get?_eq_none fun w hw => h w (List.mem_reverse.mp hw)
  simp [hrest, get?]

end Fields

namespace Scope
variable {scope : Scope} {n : String}

/-- The scope after some bindings, made in turn. -/
def bindAll (scope : Scope) (pairs : List (String × Value)) : Scope :=
  pairs.foldl (fun inner (name, v) => inner.bind name v) scope

@[simp] theorem answers_bindAll (scope : Scope) (pairs : List (String × Value)) :
    (scope.bindAll pairs).answers = scope.answers := by
  induction pairs generalizing scope with
  | nil => rfl
  | cons pair pairs ih => exact ih (scope.bind pair.1 pair.2)

theorem bindings_bindAll (scope : Scope) (pairs : List (String × Value)) :
    (scope.bindAll pairs).bindings = pairs.reverse ++ scope.bindings := by
  induction pairs generalizing scope with
  | nil => rfl
  | cons pair pairs ih =>
    rw [List.reverse_cons, List.append_assoc]
    exact ih (scope.bind pair.1 pair.2)

/-- The meaning of a name in the innermost scope, by the bindings in turn and the answers below them. -/
theorem root?_bindAll (answers : Fields) (pairs : List (String × Value)) (n : String) :
    (bindAll ⟨answers, []⟩ pairs).root? n = (Fields.get? n pairs.reverse).or (Fields.get? n answers) := by
  rw [root?, answer?, answers_bindAll, bindings_bindAll, List.append_nil]

theorem isResolved_of_dotless (hn : '.' ∉ n.toList) : scope.isResolved n = (scope.root? n).isSome := by
  rw [isResolved, rootOf_of_dotless hn]

theorem get_of_dotless (hn : '.' ∉ n.toList) {v : Value} (h : scope.root? n = some v) : scope.get n = v := by
  simp only [get, rootOf_of_dotless hn, split_of_dotless hn, h, List.tail_cons, follow]

/-- Conditions and templates see the same names. After any bindings a template finds the environment as `env`, and a name
    without dots just if conditions find it, as what they find: the last value bound to it, else its answer. The answer
    under a name stays what it was, whatever is bound. -/
theorem templateFields_bindAll (answers : Fields) (pairs : List (String × Value)) (env : Value) (n : String) :
    let scope := bindAll ⟨answers, []⟩ pairs
    let seen := scope.templateFields env
    Fields.get? "env" seen = some env ∧ scope.answer? n = Fields.get? n answers ∧
    ('.' ∉ n.toList → n ≠ "env" →
      Fields.has n seen = scope.isResolved n ∧
      (scope.isResolved n = true → Fields.get? n seen = some (scope.get n)) ∧
      (∀ front v rest, pairs = front ++ (n, v) :: rest → (∀ w, (n, w) ∉ rest) → Fields.get? n seen = some v) ∧
      ((∀ v, (n, v) ∉ pairs) → Fields.get? n seen = Fields.get? n answers)) := by
  intro scope seen
  refine ⟨by simp [seen, get?_templateFields], by simp [scope, answer?], fun hn henv => ?_⟩
  have hseen : Fields.get? n seen = scope.root? n := by simp [seen, get?_templateFields, Ne.symm henv]
  refine ⟨by rw [Fields.has, hseen, isResolved_of_dotless hn], fun hresolved => ?_, ?_, fun hunbound => ?_⟩
  · rw [isResolved_of_dotless hn] at hresolved
    obtain ⟨v, hv⟩ := Option.isSome_iff_exists.mp hresolved
    rw [hseen, hv, get_of_dotless hn hv]
  · rintro front v rest rfl hlast
    rw [hseen, root?_bindAll, Fields.get?_reverse_last hlast, Option.some_or]
  · have hnone : Fields.get? n pairs.reverse = none := Fields.get?_eq_none fun v hv => hunbound v (List.mem_reverse.mp hv)
    rw [hseen, root?_bindAll, hnone, Option.none_or]

/-- A loop inside another one that binds the same name. -/
theorem templateFields_bindAll_nested :
    let pairs : List (String × Value) := [("item", .string "outer"), ("i", Value.int 0), ("item", .string "inner")]
    let scope := bindAll ⟨[("item", .string "answer")], []⟩ pairs
    '.' ∉ "item".toList ∧ "item" ≠ "env" ∧
    (∀ w, ("item", w) ∉ ([] : List (String × Value))) ∧
    Fields.get? "item" (scope.templateFields .null) = some (.string "inner") ∧
    scope.answer? "item" = some (.string "answer") := by
  intro pairs scope
  have hdotless : '.' ∉ "item".toList := by decide +kernel
  have hname : "item" ≠ "env" := by decide +kernel
  have hlast : ∀ w, ("item", w) ∉ ([] : List (String × Value)) := fun _ => List.not_mem_nil
  obtain ⟨-, hanswer, hfound⟩ := templateFields_bindAll [("item", .string "answer")] pairs .null "item"
  obtain ⟨-, -, hinner, -⟩ := hfound hdotless hname
  exact ⟨hdotless, hname, hlast, hinner [("item", .string "outer"), ("i", Value.int 0)] _ [] rfl hlast, hanswer⟩

end Scope
end PromptForm
