import PromptForm.Requirement.Basic
import PromptForm.Schema.Basic

/-! # What validation stores

Coercion brings an answer to the type of its kind and leaves what is of this type already, so that a value that has
been stored is not coerced a second time. The validators see the coerced value, never the answer. Hence a value that
validation stores for what was answered passes validation as it is (`Requirement.validate_stored`). -/

namespace PromptForm

/-- The type of the values that inputs of a kind store. -/
def InputKind.type : InputKind → TypeName
  | .number | .rating => .number
  | .confirm => .boolean
  | .multiSelect => .array
  | _ => .string

namespace Requirement
variable {r : Requirement} {kind : InputKind} {a v w : Value}

/-! ### Coercion -/

theorem numberAnswer_type {s : String} (h : numberAnswer s = .ok v) : v = .null ∨ Schema.hasType v .number = true := by
  simp only [numberAnswer] at h
  split at h
  · cases h
    exact .inl rfl
  · split at h
    · cases h
      exact .inr rfl
    · split at h
      · split at h
        · cases h
          exact .inr rfl
        · cases h
      · cases h

theorem confirmAnswer_type {s : String} (h : confirmAnswer s = .ok v) : v = .null ∨ Schema.hasType v .boolean = true := by
  simp only [confirmAnswer] at h
  split at h
  · cases h
    exact .inl rfl
  · split at h
    · cases h
      exact .inr rfl
    · split at h
      · cases h
        exact .inr rfl
      · cases h

theorem coerce_type (h : coerce kind a = .ok v) : v = .null ∨ Schema.hasType v kind.type = true := by
  unfold coerce at h
  split at h
  · cases h
    exact .inl rfl
  · split at h
    case h_1 | h_2 =>
      split at h
      · cases h
        exact .inr rfl
      · exact numberAnswer_type h
      · cases h
    case h_3 =>
      split at h
      · cases h
        exact .inr rfl
      · exact confirmAnswer_type h
      · cases h
    case h_4 =>
      split at h
      · cases h
        exact .inr rfl
      · cases h
        exact .inr rfl
      · cases h
    -- All other kinds are answered by texts.
    case h_5 =>
      have htype : kind.type = .string := by cases kind <;> first | rfl | contradiction
      rw [htype]
      split at h
      · cases h
        exact .inr rfl
      · cases h
        exact .inr rfl
      · cases h
        exact .inr rfl
      · cases h

theorem type_of_not_blank (h : coerce kind a = .ok v) (hblank : v.isBlank = false) :
    Schema.hasType v kind.type = true := by
  rcases coerce_type h with rfl | htype
  · cases hblank
  · exact htype

theorem string_of_not_blank (hkind : kind.type = .string) (h : coerce kind a = .ok v) (hblank : v.isBlank = false) :
    ∃ s, v = .string s := by
  have htype := type_of_not_blank h hblank
  rw [hkind] at htype
  cases v with
  | string s => exact ⟨s, rfl⟩
  | _ => cases htype

theorem list_of_not_blank (hkind : kind.type = .array) (h : coerce kind a = .ok v) (hblank : v.isBlank = false) :
    ∃ items, v = .list items := by
  have htype := type_of_not_blank h hblank
  rw [hkind] at htype
  cases v with
  | list items => exact ⟨items, rfl⟩
  | _ => cases htype

/-- What is of the kind's type is left as it is. -/
theorem coerce_of_type (h : Schema.hasType v kind.type = true) : coerce kind v = .ok v := by
  cases kind <;> cases v <;> simp_all [coerce, InputKind.type, Schema.hasType]

/-! ### Checks -/

/-- A value passes all checks of a requirement. -/
structure Admits (r : Requirement) (v : Value) : Prop where
  validators : ∀ p ∈ r.validators, p.fault? v = none
  date : r.kind = .date → ∃ text day, v = .string text ∧ Calendar.Date.ofText? text = some day

theorem faults_eq_nil : r.faults v = [] ↔ r.Admits v := by
  have hdate : (∃ text day, v = .string text ∧ Calendar.Date.ofText? text = some day) ↔
      Calendar.Date.ofText? (v.toString?.getD "") ≠ none := by
    cases v with
    | string s => simp [Value.toString?, Option.ne_none_iff_exists']
    | _ => simp [Value.toString?, show Calendar.Date.ofText? "" = none from rfl]
  simp only [faults, List.append_eq_nil_iff, List.filterMap_eq_nil_iff]
  constructor
  · rintro ⟨hvalidators, hday⟩
    refine ⟨hvalidators, fun hkind => hdate.mpr ?_⟩
    simpa [hkind] using hday
  · intro h
    refine ⟨h.validators, ?_⟩
    by_cases hkind : r.kind = .date
    · simpa [hkind] using hdate.mp (h.date hkind)
    · simp [hkind]

/-! ### Validation -/

theorem validate_of_blank (h : coerce r.kind a = .ok v) (hblank : v.isBlank = true) :
    r.validate a =
      match r.default with
      | some d => .ok d
      | none => if r.required then .error [⟨r.name, .blank⟩] else .ok r.kind.emptyValue := by
  rw [validate, h]
  exact if_pos hblank

theorem validate_of_faults (h : coerce r.kind a = .ok v) (hblank : v.isBlank = false) :
    r.validate a = if (r.faults v).isEmpty then .ok v else .error ((r.faults v).map (⟨r.name, ·⟩)) := by
  rw [validate, h]
  simp only [hblank, Bool.false_eq_true, if_false]
  cases r.faults v <;> rfl

/-- A value that is not blank is stored as it is, and just if it passes the checks. -/
theorem validate_eq_ok (h : coerce r.kind a = .ok v) (hblank : v.isBlank = false) :
    r.validate a = .ok w ↔ w = v ∧ r.Admits v := by
  rw [validate_of_faults h hblank, ← faults_eq_nil, ← List.isEmpty_iff]
  cases (r.faults v).isEmpty with
  | true => simp [eq_comm]
  | false => simp

theorem validate_of_not_admits (h : coerce r.kind a = .ok v) (hblank : v.isBlank = false) (hv : ¬r.Admits v) :
    ∃ reasons, r.validate a = .error reasons ∧ reasons ≠ [] ∧ ∀ x ∈ reasons, x.field = r.name := by
  have hfaults : r.faults v ≠ [] := fun hnil => hv (faults_eq_nil.mp hnil)
  refine ⟨(r.faults v).map (⟨r.name, ·⟩), ?_, by simpa using hfaults, by simp⟩
  rw [validate_of_faults h hblank, if_neg (by simpa using hfaults)]

theorem default_of_validate_null (h : r.validate a = .ok .null) : r.default = some .null := by
  cases hcoerce : coerce r.kind a with
  | error fault =>
    rw [validate, hcoerce] at h
    cases h
  | ok v =>
    cases hblank : v.isBlank with
    | false =>
      obtain ⟨rfl, -⟩ := (validate_eq_ok hcoerce hblank).mp h
      cases hblank
    | true =>
      rw [validate_of_blank hcoerce hblank] at h
      cases hdefault : r.default with
      | some d =>
        rw [hdefault] at h
        cases h
        rfl
      | none =>
        rw [hdefault] at h
        cases hrequired : r.required <;> cases hkind : r.kind <;>
          simp [hrequired, hkind, InputKind.emptyValue, Value.int] at h

/-- An answer that cannot be brought to the kind's type is rejected. One that is brought to a blank value counts as
    none: the default is stored, or else the kind's empty value unless an answer is required. Any other is stored as
    the value that it is brought to, or rejected. It is stored just if it passes all checks; then it is of the kind's
    type, and stored again if it is given as the answer. Null is stored only as the declared default. -/
theorem validate_stored (r : Requirement) (a : Value) :
    (∀ fault, coerce r.kind a = .error fault → r.validate a = .error [⟨r.name, fault⟩]) ∧
    (∀ v, coerce r.kind a = .ok v → v.isBlank = true →
      (∀ d, r.default = some d → r.validate a = .ok d) ∧
      (r.default = none → r.required = true →
        ∃ e, r.validate a = .error [e] ∧ e.field = r.name ∧ e.fault.message = "a value is required") ∧
      (r.default = none → r.required = false → r.validate a = .ok r.kind.emptyValue)) ∧
    (∀ v, coerce r.kind a = .ok v → v.isBlank = false →
      (r.validate a = .ok v ∧ r.Admits v ∧ Schema.hasType v r.kind.type = true ∧ r.validate v = .ok v) ∨
      (¬r.Admits v ∧ ∃ reasons, r.validate a = .error reasons ∧ reasons ≠ [] ∧ ∀ e ∈ reasons, e.field = r.name)) ∧
    (r.validate a = .ok .null → r.default = some .null) := by
  refine ⟨fun fault h => by rw [validate, h], fun v h hblank => ?_, fun v h hblank => ?_, default_of_validate_null⟩
  · have hvalidate := validate_of_blank h hblank
    refine ⟨fun d hd => ?_, fun hd hrequired => ⟨⟨r.name, .blank⟩, ?_, rfl, rfl⟩, fun hd hrequired => ?_⟩
    · rw [hvalidate, hd]
    · rw [hvalidate, hd]
      exact if_pos hrequired
    · rw [hvalidate, hd]
      simp [hrequired]
  · by_cases hv : r.Admits v
    · have htype : Schema.hasType v r.kind.type = true := type_of_not_blank h hblank
      have hstored : r.validate a = .ok v := (validate_eq_ok h hblank).mpr ⟨rfl, hv⟩
      have hagain : r.validate v = .ok v := (validate_eq_ok (coerce_of_type htype) hblank).mpr ⟨rfl, hv⟩
      exact .inl ⟨hstored, hv, htype, hagain⟩
    · exact .inr ⟨hv, validate_of_not_admits h hblank hv⟩

/-- A rating of one to five stars. -/
def stars : Requirement := { name := "stars", kind := .rating, label := "Stars", validators := [.range (some 1) (some 5)] }

/-- Four stars given as text are stored as a number, six are rejected. -/
theorem validate_stored_stars : stars.validate (.string " 4 ") = .ok (Value.int 4) ∧
    stars.validate (Value.int 4) = .ok (Value.int 4) ∧
    ∃ reasons, stars.validate (.string "6") = .error reasons ∧ reasons ≠ [] := by
  obtain ⟨-, -, hfour, -⟩ := validate_stored stars (.string " 4 ")
  obtain ⟨-, -, hsix, -⟩ := validate_stored stars (.string "6")
  have hadmits : stars.Admits (Value.int 4) := ⟨by decide +kernel, nofun⟩
  have hrefuses : ¬stars.Admits (Value.int 6) := fun h => by
    have hnone : ∀ p ∈ stars.validators, p.fault? (Value.int 6) = none := h.validators
    revert hnone
    decide +kernel
  rcases hfour (Value.int 4) rfl rfl with ⟨hstored, -, -, hagain⟩ | ⟨hnot, -⟩
  · rcases hsix (Value.int 6) rfl rfl with ⟨-, hadmits, -⟩ | ⟨-, reasons, hrejected, hne, -⟩
    · exact absurd hadmits hrefuses
    · exact ⟨hstored, hagain, reasons, hrejected, hne⟩
  · exact absurd hadmits hnot

end Requirement
end PromptForm
