import PromptForm.Proofs.Locality.Words
import PromptForm.Proofs.Pass.Discovery

/-! # Scopes with more answers

A scope may get more answers under the same bindings. What has a meaning keeps it (`Scope.root?_answering`), so
that whatever waits for the names it reads is read alike from then on: conditions (`Condition.holds_answering`) and
the names of inputs (`Surroundings.expand_decided`). A loop over a name runs over nothing until the name has a
meaning. Other templates do not wait: they are read alike unless they read a name that gains a meaning
(`Scope.Gains`, `Surroundings.expand_answering`). -/

namespace PromptForm

namespace Scope
variable {scope : Scope} {later : Fields}

/-- A name without a meaning so far that has one among the later answers. -/
def Gains (scope : Scope) (later : Fields) (n : String) : Prop :=
  n ≠ "env" ∧ scope.root? n = none ∧ (Fields.get? n later).isSome = true

theorem root?_answering (hkept : Fields.Kept scope.answers later) {n : String} {v : Value}
    (h : scope.root? n = some v) : (scope.answering later).root? n = some v := by
  simp only [root?, answer?, answering, Option.or_eq_some_iff] at h ⊢
  exact h.imp_right fun h => ⟨h.1, hkept n v h.2⟩

/-- A name that gains no meaning means what it meant. -/
theorem root?_answering_of_not_gains (hkept : Fields.Kept scope.answers later) {n : String} (hn : n ≠ "env")
    (h : ¬scope.Gains later n) : (scope.answering later).root? n = scope.root? n := by
  cases hv : scope.root? n with
  | some v => exact root?_answering hkept hv
  | none =>
    have hlater : Fields.get? n later = none := by simpa [Gains, hn, hv] using h
    simp only [root?, answer?, answering, Option.or_eq_none_iff] at hv ⊢
    exact ⟨hv.1, hlater⟩

theorem isResolved_answering (hkept : Fields.Kept scope.answers later) {path : String}
    (h : scope.isResolved path = true) : (scope.answering later).isResolved path = true := by
  obtain ⟨v, hv⟩ := Option.isSome_iff_exists.mp h
  rw [isResolved, root?_answering hkept hv, Option.isSome_some]

theorem get_answering (hkept : Fields.Kept scope.answers later) {path : String} (h : scope.isResolved path = true) :
    (scope.answering later).get path = scope.get path := by
  obtain ⟨v, hv⟩ := Option.isSome_iff_exists.mp h
  exact get_congr ((root?_answering hkept hv).trans hv.symm)

theorem get_of_not_isResolved {path : String} (h : scope.isResolved path = false) : scope.get path = .null := by
  have hnone : scope.root? (rootOf path) = none := by simpa [isResolved] using h
  rw [get, hnone]

end Scope

/-! ### Conditions and loops -/

theorem Condition.mem_firstUses {n : String} : ∀ {ns : List String}, n ∈ ns → n ∈ firstUses ns
  | m :: ns, h => by
    by_cases hnm : n = m
    · rw [hnm]
      exact List.mem_cons_self
    · have hrest : n ∈ firstUses ns := mem_firstUses ((List.mem_cons.mp h).resolve_left hnm)
      exact List.mem_cons_of_mem m (List.mem_filter.mpr ⟨hrest, by simpa using hnm⟩)

section Later
variable {scope : Scope} {later : Fields}

/-- A condition that waits for nothing holds with more answers just if it holds. -/
theorem Condition.holds_answering (hkept : Fields.Kept scope.answers later) {c : Condition}
    (h : c.references.all scope.isResolved = true) :
    c.references.all (scope.answering later).isResolved = true ∧ c.holds (scope.answering later) = c.holds scope := by
  rw [List.all_eq_true] at h
  refine ⟨List.all_eq_true.mpr fun n hn => Scope.isResolved_answering hkept (h n hn), ?_⟩
  exact Condition.holds_congr fun n hn => Scope.get_answering hkept (h n (mem_firstUses hn))

/-- A loop runs over nothing or over the items that it runs over with more answers. -/
theorem loopItems_answering (hkept : Fields.Kept scope.answers later) (prop : Option Value) :
    loopItems scope prop = [] ∨ loopItems (scope.answering later) prop = loopItems scope prop := by
  match prop with
  | some (.string name) =>
    cases h : scope.isResolved (Text.trimmed name) with
    | true => exact .inr (by simp only [loopItems, Scope.get_answering hkept h])
    | false => exact .inl (by simp only [loopItems, Scope.get_of_not_isResolved h])
  | none | some .null | some (.bool _) | some (.number _) | some (.list _) | some (.object _) => exact .inr rfl

/-! ### Templates -/

namespace Surroundings
variable {s : Surroundings}

/-- Author text expands alike with more answers unless it reads a name that gains a meaning. -/
theorem expand_answering (hkept : Fields.Kept scope.answers later) {text : String}
    (h : ∀ n ∈ Template.namesRead text, ¬scope.Gains later n) :
    s.expand (scope.answering later) text = s.expand scope text := by
  refine Template.expand_congr fun n hn => ?_
  simp only [fieldsIn, Scope.get?_templateFields]
  split
  · rfl
  · rename_i henv
    exact Scope.root?_answering_of_not_gains hkept (Ne.symm henv) (h n hn)

/-- A text is decided if all names that it reads have a meaning. -/
theorem isUndecided_eq_false {text : String} : isUndecided scope (some (.string text)) = .ok false ↔
    ∃ names, Template.namesIn text = .ok names ∧ ∀ n ∈ names, n ≠ "env" → scope.isResolved n = true := by
  cases h : Template.namesIn text with
  | error m => simp [isUndecided, h, Except.map]
  | ok names => simp [isUndecided, h, Except.map]

theorem isUndecided_eq_error {text : String} {m : Malformed} :
    isUndecided scope (some (.string text)) = .error m ↔ Template.namesIn text = .error m := by
  cases h : Template.namesIn text with
  | error m => simp [isUndecided, h, Except.map]
  | ok names => simp [isUndecided, h, Except.map]

/-- The name of an input that is decided gains nothing. -/
theorem expand_decided (hkept : Fields.Kept scope.answers later) {text : String}
    (h : isUndecided scope (some (.string text)) = .ok false) :
    s.expand (scope.answering later) text = s.expand scope text := by
  obtain ⟨names, hnames, hresolved⟩ := isUndecided_eq_false.mp h
  refine expand_answering hkept fun n hn hgains => ?_
  have hresolved : scope.isResolved n = true := hresolved n (by simpa [Template.namesRead, hnames] using hn) hgains.1
  -- A name in a template is no path, so that it is resolved itself.
  rw [Scope.isResolved, Scope.rootOf_of_namesRead hn, hgains.2.1] at hresolved
  cases hresolved

/-- A name that is decided stays decided. -/
theorem isUndecided_answering (hkept : Fields.Kept scope.answers later) {prop : Option Value}
    (h : isUndecided scope prop = .ok false) : isUndecided (scope.answering later) prop = .ok false := by
  match prop with
  | some (.string text) =>
    obtain ⟨names, hnames, hresolved⟩ := isUndecided_eq_false.mp h
    exact isUndecided_eq_false.mpr ⟨names, hnames, fun n hn henv => Scope.isResolved_answering hkept (hresolved n hn henv)⟩
  | none | some .null | some (.bool _) | some (.number _) | some (.list _) | some (.object _) => rfl

/-- Whether a name can be read does not depend on the answers. -/
theorem isUndecided_error {prop : Option Value} {m : Malformed} (h : isUndecided scope prop = .error m) :
    isUndecided (scope.answering later) prop = .error m := by
  match prop with
  | some (.string text) => exact isUndecided_eq_error.mpr (isUndecided_eq_error.mp h)
  | none | some .null | some (.bool _) | some (.number _) | some (.list _) | some (.object _) => cases h

theorem isWaiting_answering (hkept : Fields.Kept scope.answers later) {tag : String} {props : Fields}
    (h : s.isWaiting tag props scope = .ok false) : s.isWaiting tag props (scope.answering later) = .ok false := by
  unfold isWaiting at h ⊢
  cases hasks : s.registry.asksInput tag with
  | true => exact isUndecided_answering hkept (by simpa only [hasks, if_true] using h)
  | false => rfl

theorem isWaiting_error {tag : String} {props : Fields} {m : Malformed} (h : s.isWaiting tag props scope = .error m) :
    s.isWaiting tag props (scope.answering later) = .error m := by
  unfold isWaiting at h ⊢
  cases hasks : s.registry.asksInput tag with
  | true => exact isUndecided_error (by simpa only [hasks, if_true] using h)
  | false => simp [hasks] at h

end Surroundings
end Later
end PromptForm
