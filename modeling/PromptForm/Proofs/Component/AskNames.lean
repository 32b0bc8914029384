import PromptForm.Component.Ask
import PromptForm.Proofs.Pattern.Words
import PromptForm.Proofs.Locality.Scope

/-! # Names of inputs

An object that fits a closed schema has under each known key what the schema of that key asks for
(`Schema.known_fits`). The schema of every input asks for an identifier as its name, so that a requirement
made from props that fit is named by one (`askRequirement_name`). -/

namespace PromptForm

namespace Fields
variable {α : Type}

theorem mem_of_get? {k : String} {v : α} : ∀ {fields : List (String × α)}, get? k fields = some v → (k, v) ∈ fields
  | (k', v') :: rest, h => by
    unfold get? at h
    split at h
    · rename_i hk
      cases h
      rw [hk]
      exact List.mem_cons_self
    · exact List.mem_cons_of_mem _ (mem_of_get? h)

end Fields

/-! ### Schemas -/

namespace Schema

theorem violations_eq_nil_of_known {fs : Fields} {k : String} {s : Schema} {v : Value} (hv : Fields.get? k fs = some v) :
    ∀ {known : List (String × Schema)}, violationsOfKnown known fs = [] → (k, s) ∈ known → s.violations v = []
  | (k', s') :: rest, h, hmem => by
    rw [violationsOfKnown, List.append_eq_nil_iff] at h
    rcases List.mem_cons.mp hmem with heq | hmem
    · cases heq
      simpa only [hv] using h.1
    · exact violations_eq_nil_of_known hv h.2 hmem

/-- Under a known key an object that fits a closed schema has a value that fits the schema of the key. -/
theorem known_fits {known : List (String × Schema)} {names : List String} {fs : Fields} {k : String} {s : Schema}
    {v : Value} (h : (closedObject known names).violations (.object fs) = []) (hs : Fields.get? k known = some s)
    (hv : Fields.get? k fs = some v) : s.violations v = [] := by
  have hmem := Fields.mem_of_get? hs
  have hknown : known.isEmpty = false := by
    cases known with
    | nil => cases hmem
    | cons _ _ => rfl
  have hfields : violationsOfKnown known fs = [] := by
    unfold closedObject at h
    rw [hknown] at h
    cases hn : names.isEmpty <;> simp [hn, violations, violationsOfAll] at h <;> exact h.1
  exact violations_eq_nil_of_known hv hfields hmem

/-- What fits a pattern of texts is a text in which the pattern occurs. -/
theorem matching_fits {source : String} {p : Pattern} {v : Value} (h : (matching source p).violations v = []) :
    ∃ text, v = .string text ∧ p.matchesIn text.toList = true := by
  simp only [matching, violations, violationsOfAll, List.append_eq_nil_iff, List.append_nil] at h
  obtain ⟨hpattern, htype⟩ := h
  cases v with
  | string text =>
    refine ⟨text, rfl, ?_⟩
    cases hm : p.matchesIn text.toList with
    | true => rfl
    | false => simp [hm] at hpattern
  | _ => simp [Schema.string, violations, hasType] at htype

end Schema

/-! ### Identifiers -/

namespace Text
variable {c d : Char}

theorem isAlpha_of_upper (h : ('A'.toNat ≤ c.toNat && c.toNat ≤ 'Z'.toNat) = true) : c.isAlpha = true :=
  isAlpha_iff.mpr (.inl (by simpa using h))

theorem isAlpha_of_lower (h : ('a'.toNat ≤ c.toNat && c.toNat ≤ 'z'.toNat) = true) : c.isAlpha = true :=
  isAlpha_iff.mpr (.inr (by simpa using h))

theorem isDigit_of_range (h : ('0'.toNat ≤ c.toNat && c.toNat ≤ '9'.toNat) = true) : c.isDigit = true := by
  simpa [Char.isDigit, UInt32.le_iff_toNat_le] using h

theorem eq_of_range (h : (d.toNat ≤ c.toNat && c.toNat ≤ d.toNat) = true) : c = d := by
  simp only [Bool.and_eq_true, decide_eq_true_eq] at h
  exact Char.toNat_inj.mp (Nat.le_antisymm h.2 h.1)

/-- The pattern of identifiers matches identifiers only. -/
theorem isIdentifier_of_matches {text : String} (h : Pattern.identifier.matchesIn text.toList = true) :
    isIdentifier text = true := by
  obtain ⟨c, cs, htext, hfirst, hlater⟩ := Pattern.wholeWord_matches_iff.mp h
  simp only [Pattern.has_rangesOf, List.any_cons, List.any_nil, Bool.or_false, Bool.or_eq_true] at hfirst hlater
  simp only [isIdentifier, htext, Bool.and_eq_true, List.all_eq_true]
  constructor
  · rcases hfirst with h | h | h
    · simp [isAlpha_of_upper h]
    · simp [isAlpha_of_lower h]
    · simp [eq_of_range h]
  · intro x hx
    rcases hlater x hx with h | h | h | h
    · simp [Char.isAlphanum, isAlpha_of_upper h]
    · simp [Char.isAlphanum, isAlpha_of_lower h]
    · simp [Char.isAlphanum, isDigit_of_range h]
    · simp [eq_of_range h]

end Text

namespace Component

theorem name_schema (kind : InputKind) : ∃ known, askSchema kind = Schema.closedObject known ["name"] ∧
    Fields.get? "name" known = some Schema.identifier := by
  refine ⟨_, rfl, ?_⟩
  cases kind <;> rfl

theorem text?_of_askRequirement {kind : InputKind} {props : Fields} {r : Requirement} (h : askRequirement kind props = .ok r) :
    Fields.text? "name" props = some r.name := by
  unfold askRequirement at h
  split at h
  · cases h
  · rename_i name hname
    split at h <;> cases h
    exact hname

/-- The requirement of an input whose props fit is named by an identifier. -/
theorem askRequirement_name {kind : InputKind} {props : Fields} {r : Requirement}
    (hfits : (askSchema kind).violations (.object props) = []) (h : askRequirement kind props = .ok r) :
    Text.isIdentifier r.name = true := by
  obtain ⟨v, hv, hstring⟩ := Option.bind_eq_some_iff.mp (text?_of_askRequirement h)
  obtain ⟨known, hschema, hknown⟩ := name_schema kind
  obtain ⟨text, htext, hmatch⟩ := Schema.matching_fits (Schema.known_fits (hschema ▸ hfits) hknown hv)
  rw [htext] at hstring
  cases hstring
  exact Text.isIdentifier_of_matches hmatch

end Component
end PromptForm
