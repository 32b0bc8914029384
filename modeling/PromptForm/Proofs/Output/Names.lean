import PromptForm.Proofs.Component.AskNames
import PromptForm.Proofs.Output.Angles

/-! # Names of sections

The schema of sections asks for a name of letters, digits, underscores, dots and dashes. Such a name may stand in a mark
(`Output.isMarkName_of_name`), and the title that is made of it has no angle (`Output.titleOf_angleFree`). -/

namespace PromptForm

open Output (AngleFree)

namespace Text

/-- What the names of sections are made of. -/
def isNameChar (c : Char) : Bool := c.isAlphanum || c == '_' || c == '.' || c == '-'

variable {c : Char}

theorem toNat_lt_of_isNameChar (h : isNameChar c = true) : c.toNat < 128 := by
  simp only [isNameChar, Bool.or_eq_true, beq_iff_eq] at h
  rcases h with ((h | rfl) | rfl) | rfl
  · rw [Char.isAlphanum, Bool.or_eq_true] at h
    rcases h with h | h
    · rcases isAlpha_iff.mp h with h | h
      · have hlast : 'Z'.toNat = 90 := rfl
        omega
      · have hlast : 'z'.toNat = 122 := rfl
        omega
    · simp only [Char.isDigit, UInt32.le_iff_toNat_le, Bool.and_eq_true, decide_eq_true_eq] at h
      have hlast : '9'.val.toNat = 57 := rfl
      have hcode : c.toNat = c.val.toNat := rfl
      omega
  · decide
  · decide
  · decide

/-- What holds of all characters of names below 128 holds of all of them. -/
theorem forall_isNameChar {p : Char → Prop} (hall : ∀ n < 128, isNameChar (Char.ofNat n) = true → p (Char.ofNat n))
    (h : isNameChar c = true) : p c := by
  have hc := hall c.toNat (toNat_lt_of_isNameChar h)
  rw [Char.ofNat_toNat] at hc
  exact hc h

theorem mem_of_mem_splitBy {q : Char → Bool} : ∀ {cs piece : List Char}, piece ∈ splitBy q cs → ∀ c ∈ piece, c ∈ cs
  | [], piece, h, c, hc => by
    rw [List.mem_singleton.mp h] at hc
    exact hc
  | d :: cs, piece, h, c, hc => by
    unfold splitBy at h
    split at h
    · rcases List.mem_cons.mp h with rfl | h
      · cases hc
      · exact List.mem_cons_of_mem d (mem_of_mem_splitBy h c hc)
    · split at h
      · rw [List.mem_singleton.mp h] at hc
        rw [List.mem_singleton.mp hc]
        exact List.mem_cons_self
      · rename_i first rest hsplit
        have hfirst : first ∈ splitBy q cs := hsplit ▸ List.mem_cons_self
        rcases List.mem_cons.mp h with rfl | h
        · rcases List.mem_cons.mp hc with rfl | hc
          · exact List.mem_cons_self
          · exact List.mem_cons_of_mem d (mem_of_mem_splitBy hfirst c hc)
        · have hpiece : piece ∈ splitBy q cs := hsplit ▸ List.mem_cons_of_mem first h
          exact List.mem_cons_of_mem d (mem_of_mem_splitBy hpiece c hc)

/-- The pattern of section names matches names of these characters only. -/
theorem isNameChar_of_matches {text : String} (h : Pattern.sectionName.matchesIn text.toList = true) :
    ∀ c ∈ text.toList, isNameChar c = true := by
  obtain ⟨c, cs, htext, hfirst, hlater⟩ := Pattern.wholeWord_matches_iff.mp h
  simp only [Pattern.has_rangesOf, List.any_cons, List.any_nil, Bool.or_false, Bool.or_eq_true] at hfirst hlater
  rw [htext]
  refine List.forall_mem_cons.mpr ⟨?_, fun x hx => ?_⟩
  · rcases hfirst with h | h | h
    · simp [isNameChar, Char.isAlphanum, isAlpha_of_upper h]
    · simp [isNameChar, Char.isAlphanum, isAlpha_of_lower h]
    · simp [isNameChar, eq_of_range h]
  · rcases hlater x hx with h | h | h | h | h | h
    · simp [isNameChar, Char.isAlphanum, isAlpha_of_upper h]
    · simp [isNameChar, Char.isAlphanum, isAlpha_of_lower h]
    · simp [isNameChar, Char.isAlphanum, isDigit_of_range h]
    · simp [isNameChar, eq_of_range h]
    · simp [isNameChar, eq_of_range h]
    · simp [isNameChar, eq_of_range h]

end Text

namespace Output
variable {name : List Char}

theorem isMarkName_of_name (h : ∀ c ∈ name, Text.isNameChar c = true) : IsMarkName name := fun c hc => by
  refine Text.forall_isNameChar (p := fun c => c ≠ '<' ∧ c ≠ '>' ∧ c ≠ '/' ∧ Text.isBlank c = false) ?_ (h c hc)
  decide +kernel

theorem titleOf_angleFree (h : ∀ c ∈ name, Text.isNameChar c = true) : AngleFree (titleOf name) := by
  refine AngleFree.intercalate (by decide) fun piece hpiece => ?_
  obtain ⟨word, hword, rfl⟩ := List.mem_map.mp hpiece
  have hchars : ∀ c ∈ word, Text.isNameChar c = true := fun c hc =>
    h c (Text.mem_of_mem_splitBy (List.mem_filter.mp hword).1 c hc)
  cases word with
  | nil => exact .nil
  | cons c cs =>
    obtain ⟨hc, hcs⟩ := List.forall_mem_cons.mp hchars
    refine AngleFree.append.mpr ⟨?_, fun d hd => ?_⟩
    · exact Text.forall_isNameChar (p := fun c => AngleFree (Text.capital c)) (by decide +kernel) hc
    · have hmark := isMarkName_of_name hcs d hd
      exact ⟨hmark.1, hmark.2.1⟩

end Output

/-! ### Props of sections -/

/-- The name of a section whose props fit. -/
theorem Intrinsic.section_name {props : Fields} (hfits : Intrinsic.section.schema.violations (.object props) = []) :
    ∀ c ∈ ((Fields.text? "name" props).getD "").toList, Text.isNameChar c = true := by
  cases hname : Fields.text? "name" props with
  | none => exact nofun
  | some name =>
    obtain ⟨v, hv, hstring⟩ := Option.bind_eq_some_iff.mp hname
    have hschema : (Schema.matching Pattern.sectionNameSource Pattern.sectionName).violations v = [] := by
      unfold schema at hfits
      exact Schema.known_fits hfits rfl hv
    obtain ⟨text, rfl, hmatch⟩ := Schema.matching_fits hschema
    cases hstring
    exact Text.isNameChar_of_matches hmatch

end PromptForm
