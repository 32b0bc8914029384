import PromptForm.Pass.Basic
import PromptForm.Condition.Basic
import PromptForm.Proofs.Locality.Template
import PromptForm.Proofs.Text.Parts

/-! # What is read from a scope

Templates and conditions see a scope through the meaning of single names. A template finds the
environment under `env` and under any other name the innermost binding, else the answer
(`Scope.get?_templateFields`). A condition reads the paths that it mentions (`Formula.value_congr`), and a
path nothing but its root. -/

namespace PromptForm

/-! ### Fields -/

namespace Fields
variable {α : Type}

/-- Of the pairs put in and the fields below them the last pair for a key counts. -/
theorem get?_insertAll_reverse (pairs fields : List (String × α)) (n : String) :
    get? n (insertAll pairs.reverse fields) = (get? n pairs).or (get? n fields) := by
  simp only [insertAll, List.foldl_reverse]
  induction pairs with
  | nil => rfl
  | cons head rest ih =>
    obtain ⟨k, v⟩ := head
    simp only [List.foldr_cons, get?_insert, get?]
    split
    · rfl
    · exact ih

end Fields

/-! ### Names in a scope -/

namespace Scope
variable {a b : Scope} {n : String}

/-- A name without dots is no longer path. -/
theorem split_of_dotless (hn : '.' ∉ n.toList) : Text.split '.' n = [n] := by
  have hdots : ∀ c ∈ n.toList, (c == '.') = false := fun c hc => beq_false_of_ne fun heq => hn (heq ▸ hc)
  simp [Text.split, Text.splitBy_of_none hdots]

theorem rootOf_of_dotless (hn : '.' ∉ n.toList) : rootOf n = n := by
  simp [rootOf, split_of_dotless hn]

theorem get_congr {path : String} (h : a.root? (rootOf path) = b.root? (rootOf path)) :
    a.get path = b.get path := by
  simp only [get, h]

theorem isResolved_congr {path : String} (h : a.root? (rootOf path) = b.root? (rootOf path)) :
    a.isResolved path = b.isResolved path := by
  simp only [isResolved, h]

/-- A template sees the environment as `env` and any other name as the scope has it. -/
theorem get?_templateFields (scope : Scope) (env : Value) (n : String) :
    Fields.get? n (scope.templateFields env) = if "env" = n then some env else scope.root? n := by
  simp only [templateFields, Fields.get?_insert, Fields.get?_insertAll_reverse, root?, answer?]

theorem root?_bind (scope : Scope) (name n : String) (v : Value) :
    (scope.bind name v).root? n = if name = n then some v else scope.root? n := by
  simp only [root?, bind, Fields.get?, answer?]
  split <;> rfl

@[simp] theorem answers_bind (scope : Scope) (name : String) (v : Value) :
    (scope.bind name v).answers = scope.answers := rfl

@[simp] theorem answers_inRound (scope : Scope) (binding : String) (index : Option String) (i : Nat)
    (item : Value) : (scope.inRound binding index i item).answers = scope.answers := by
  cases index <;> rfl

/-- The scope with other answers under its bindings. -/
def answering (scope : Scope) (answers : Fields) : Scope := { scope with answers }

theorem answering_inRound (scope : Scope) (answers : Fields) (binding : String) (index : Option String) (i : Nat)
    (item : Value) :
    (scope.inRound binding index i item).answering answers = (scope.answering answers).inRound binding index i item := by
  cases index <;> rfl

end Scope

/-- Author text expands alike in scopes that agree on the names it reads. -/
theorem Surroundings.expand_congr (s : Surroundings) {a b : Scope} {text : String}
    (h : ∀ n ∈ Template.namesRead text, a.root? n = b.root? n) : s.expand a text = s.expand b text := by
  refine Template.expand_congr fun n hn => ?_
  simp only [fieldsIn, Scope.get?_templateFields, h n hn]

/-! ### Conditions -/

namespace Formula
variable {a b : Scope}

mutual
/-- A formula reads nothing but the paths that it mentions. -/
theorem value_congr : ∀ f : Formula, (∀ n ∈ f.names, a.get n = b.get n) → f.value a = f.value b
  | .literal _, _ => rfl
  | .name path, h => h path (by simp [names])
  | .negation inner, h => by simp only [value, value_congr inner h]
  | .conjunction items, h => by simp only [value, allTrue_congr items h]
  | .disjunction items, h => by simp only [value, anyTrue_congr items h]
  | .blank inner, h => by simp only [value, value_congr inner h]
  | .compare _ left right, h => by
    have hleft := value_congr left fun n hn => h n (List.mem_append_left _ hn)
    have hright := value_congr right fun n hn => h n (List.mem_append_right _ hn)
    simp only [value, hleft, hright]
termination_by structural f => f
theorem allTrue_congr : ∀ fs : List Formula, (∀ n ∈ namesOf fs, a.get n = b.get n) → allTrue a fs = allTrue b fs
  | [], _ => rfl
  | f :: fs, h => by
    have hf := value_congr f fun n hn => h n (List.mem_append_left _ hn)
    have hfs := allTrue_congr fs fun n hn => h n (List.mem_append_right _ hn)
    simp only [allTrue, hf, hfs]
termination_by structural fs => fs
theorem anyTrue_congr : ∀ fs : List Formula, (∀ n ∈ namesOf fs, a.get n = b.get n) → anyTrue a fs = anyTrue b fs
  | [], _ => rfl
  | f :: fs, h => by
    have hf := value_congr f fun n hn => h n (List.mem_append_left _ hn)
    have hfs := anyTrue_congr fs fun n hn => h n (List.mem_append_right _ hn)
    simp only [anyTrue, hf, hfs]
termination_by structural fs => fs
end

end Formula

theorem Condition.holds_congr {c : Condition} {a b : Scope} (h : ∀ n ∈ c.formula.names, a.get n = b.get n) :
    c.holds a = c.holds b := by
  simp only [holds, c.formula.value_congr h]

end PromptForm
