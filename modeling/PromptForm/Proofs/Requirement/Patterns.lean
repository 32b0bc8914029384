import PromptForm.Proofs.Pattern.Whole
import PromptForm.Proofs.Requirement.Counts

/-! # Patterns of answers

A pattern is checked alone when its requirement is made, and stands between anchors when an answer is checked. Where it
fits there, an answer passes just if the pattern matches it from its first to its last character, and no answer is
rejected for the pattern itself (`Requirement.pattern_whole`). A pattern that ends in a comment does not fit, and then
every answer is rejected for it (`Requirement.comment_hides_anchor`). -/

namespace PromptForm.Requirement
open Component
variable {kind : InputKind} {props : Fields} {r : Requirement} {source : String} {p : Pattern} {a v : Value}

/-- What the check of an answer between anchors comes to. -/
theorem pattern_fault?_eq (h : Pattern.ofText? source = some p) (v : Value) : (Validator.pattern source).fault? v =
    if Pattern.fitsWhole source then
      if p.matchesWhole (v.toString?.getD "").toList then none else some (.noMatch source)
    else some .invalidPattern := by
  rw [Validator.fault?, Validator.wholePattern?, Pattern.ofText?_anchored h]
  cases Pattern.fitsWhole source with
  | true => simp only [if_true, Pattern.anchored_matchesIn]
  | false => rfl

theorem validators_pattern {vs : List Validator} (hkind : kind ∈ lengthKinds)
    (hpattern : Fields.text? "pattern" props = some source) (h : Component.validators kind props = .ok vs) :
    (∃ p, Pattern.ofText? source = some p) ∧
      vs = .pattern source :: ifBounded .length (Fields.count? "minLength" props) (Fields.count? "maxLength" props) := by
  -- All three kinds are validated in the same way.
  have hmade : Component.validators .text props = .ok vs := by
    rcases mem_lengthKinds.mp hkind with rfl | rfl | rfl <;> exact h
  simp only [Component.validators, hpattern] at hmade
  split at hmade
  · next hsome =>
    cases hmade
    exact ⟨Option.isSome_iff_exists.mp hsome, rfl⟩
  · cases hmade

theorem boundFault?_ne {n : Nat} {min max : Option Nat} {low high : Nat → AnswerFault} {fault : AnswerFault}
    (hlow : ∀ n, low n ≠ fault) (hhigh : ∀ n, high n ≠ fault) : boundFault? n min max low high ≠ some fault := by
  unfold boundFault?
  split
  · next least hleast => exact fun h => hlow least (Option.some.inj h)
  · intro h
    obtain ⟨most, -, hmost⟩ := Option.map_eq_some_iff.mp h
    exact hhigh most hmost

theorem coerce_ne_invalidPattern (hkind : kind ∈ lengthKinds) : coerce kind a ≠ .error .invalidPattern := by
  rcases mem_lengthKinds.mp hkind with rfl | rfl | rfl <;> cases a <;> simp [coerce]

/-- A requirement whose validators do not blame the pattern rejects no answer for it. -/
theorem invalidPattern_not_mem {es : List Rejection} (hkind : r.kind ∈ lengthKinds)
    (hvalidators : ∀ q ∈ r.validators, ∀ v, q.fault? v ≠ some .invalidPattern) (h : r.validate a = .error es) :
    ⟨r.name, .invalidPattern⟩ ∉ es := by
  -- An answer is rejected because it cannot be coerced, because there is none, or by what it is checked for.
  unfold validate at h
  split at h
  · next fault hcoerce =>
    cases h
    intro hmem
    cases List.mem_singleton.mp hmem
    exact coerce_ne_invalidPattern hkind hcoerce
  · next value hcoerce =>
    split at h
    · split at h
      · cases h
      · split at h
        · cases h
          simp
        · cases h
    · split at h
      · cases h
      · cases h
        intro hmem
        obtain ⟨fault, hfault, heq⟩ := List.mem_map.mp hmem
        cases heq
        rcases List.mem_append.mp hfault with hfault | hfault
        · obtain ⟨q, hq, hqv⟩ := List.mem_filterMap.mp hfault
          exact hvalidators q hq value hqv
        · split at hfault
          · cases List.mem_singleton.mp hfault
          · cases hfault

/-- The pattern of an accepted requirement can be read alone and is among its validators. Where it fits between anchors,
    a text passes if the pattern matches all of it, and no answer is rejected since the pattern is not one. Where it
    does not fit, no text passes; then the last line of the pattern has a number sign, or its operators are nested too
    deep for two more. -/
theorem pattern_whole (hkind : kind ∈ lengthKinds) (hpattern : Fields.text? "pattern" props = some source)
    (h : askRequirement kind props = .ok r) :
    ∃ p, Pattern.ofText? source = some p ∧ Validator.pattern source ∈ r.validators ∧
      (Pattern.fitsWhole source = true →
        (∀ s, (Validator.pattern source).fault? (.string s) = none ↔ p.matchesWhole s.toList = true) ∧
        ∀ a es, r.validate a = .error es → ⟨r.name, .invalidPattern⟩ ∉ es) ∧
      (Pattern.fitsWhole source = false →
        (∀ s, (Validator.pattern source).fault? (.string s) = some .invalidPattern) ∧
        (Pattern.Reader.HasComment source.toList ∨
          ∃ part, Pattern.Reader.whole? source.toList = some part ∧ Pattern.Reader.maxDepth < part.depth + 2)) := by
  obtain ⟨hr, hvalidators⟩ := askRequirement_ok h
  obtain ⟨⟨p, hp⟩, hmade⟩ := validators_pattern hkind hpattern hvalidators
  have hfault := pattern_fault?_eq hp
  refine ⟨p, hp, hmade ▸ List.mem_cons_self, fun hfits => ⟨fun s => ?_, fun a es he => ?_⟩, fun hfits => ⟨fun s => ?_, ?_⟩⟩
  · rw [hfault, if_pos hfits, Value.toString?, Option.getD_some]
    cases p.matchesWhole s.toList <;> simp
  · refine invalidPattern_not_mem (hr ▸ hkind) (fun q hq v => ?_) he
    rcases List.mem_cons.mp (hmade ▸ hq) with rfl | hq
    · rw [hfault, if_pos hfits]
      split <;> simp
    · unfold ifBounded at hq
      split at hq
      · rw [List.mem_singleton.mp hq]
        exact boundFault?_ne (by simp) (by simp)
      · cases hq
  · rw [hfault, if_neg (by simp [hfits])]
  · exact Pattern.comment_or_deep hp hfits

/-- Props that ask for letters of two kinds. -/
def lettersProps : Fields := [("name", .string "letters"), ("pattern", .string "a|b+")]

/-- Alternatives are matched from end to end as well: `bb` passes, and `ab`, which one of them begins, does not. -/
theorem pattern_whole_letters : ∃ r, askRequirement .text lettersProps = .ok r ∧
    (Validator.pattern "a|b+").fault? (.string "bb") = none ∧ (Validator.pattern "a|b+").fault? (.string "ab") ≠ none ∧
    ∀ a es, r.validate a = .error es → ⟨r.name, .invalidPattern⟩ ∉ es := by
  have hfits : (askSchema .text).violations (.object lettersProps) = [] := by decide +kernel
  obtain ⟨r, hr, -⟩ := exists_askRequirement .text hfits rfl
  obtain ⟨p, hp, -, hwhole, -⟩ := pattern_whole (by decide) rfl hr
  obtain ⟨hmatches, hrejected⟩ := hwhole (by decide +kernel)
  have hread : Pattern.ofText? "a|b+" = some (.alt (.one (.range 'a' 'a')) (.repeated (.one (.range 'b' 'b')) 1 none)) := by
    decide +kernel
  cases hp.symm.trans hread
  refine ⟨r, hr, (hmatches "bb").mpr (by decide +kernel), fun hnone => ?_, hrejected⟩
  exact absurd ((hmatches "ab").mp hnone) (by decide +kernel)

/-- Props with a pattern that ends in a comment. -/
def commentProps : Fields := [("name", .string "p"), ("pattern", .string "(?x)a #c")]

/-- The comment hides the anchor at the end: the pattern is accepted and matches all of `a`, and yet `a` does not pass,
    nor does any other text. -/
theorem comment_hides_anchor : ¬∀ (props : Fields) (r : Requirement) (source : String) (p : Pattern) (s : String),
    askRequirement .text props = .ok r → Validator.pattern source ∈ r.validators → Pattern.ofText? source = some p →
    ((Validator.pattern source).fault? (.string s) = none ↔ p.matchesWhole s.toList = true) := by
  intro h
  have hfits : (askSchema .text).violations (.object commentProps) = [] := by decide +kernel
  obtain ⟨r, hr, -, hvalidators⟩ := exists_askRequirement .text hfits (show Component.validators .text commentProps = .ok [.pattern "(?x)a #c"] from rfl)
  have hread : Pattern.ofText? "(?x)a #c" = some (.one (.range 'a' 'a')) := by decide +kernel
  have hpasses := h commentProps r _ _ "a" hr (hvalidators ▸ List.mem_singleton_self _) hread
  have hfault : (Validator.pattern "(?x)a #c").fault? (.string "a") = some .invalidPattern := by
    rw [pattern_fault?_eq hread]
    decide +kernel
  rw [hfault] at hpasses
  exact nomatch hpasses.mpr (by decide +kernel)

end PromptForm.Requirement
