import PromptForm.Proofs.Component.AskNames
import PromptForm.Proofs.Requirement.Stored

/-! # Choices among options

A choice of one option is text, and stored only if it is the value of a declared option. A choice of several options
is a list, and of a list validation reads the texts alone: these are values of declared options, and their number is
within the bounds, but entries of any other type pass unread (`Requirement.choice_declared`). -/

namespace PromptForm

/-! ### Bounds -/

/-- A count lies within bounds. -/
structure Within (min max : Option Nat) (n : Nat) : Prop where
  least : ∀ m, min = some m → m ≤ n
  most : ∀ m, max = some m → n ≤ m

theorem boundFault?_eq_none {n : Nat} {min max : Option Nat} {low high : Nat → AnswerFault} :
    boundFault? n min max low high = none ↔ Within min max n := by
  unfold boundFault?
  constructor
  · intro h
    split at h
    · cases h
    · rename_i hmin
      rw [Option.map_eq_none_iff] at h
      constructor
      · rintro m rfl
        simpa using hmin
      · rintro m rfl
        simpa using h
  · rintro ⟨hleast, hmost⟩
    have hmin : min.filter (n < ·) = none := by
      cases min with
      | none => rfl
      | some m => simpa using hleast m rfl
    have hmax : max.filter (· < n) = none := by
      cases max with
      | none => rfl
      | some m => simpa using hmost m rfl
    rw [hmin, hmax]
    rfl

namespace Validator
variable {options : List String} {min max : Option Nat}

/-- The texts in a list. -/
def texts (items : List Value) : List String := items.filterMap Value.toString?

theorem mem_texts {items : List Value} {s : String} : s ∈ texts items ↔ .string s ∈ items := by
  rw [texts, List.mem_filterMap]
  constructor
  · rintro ⟨v, hv, htext⟩
    cases v with
    | string t =>
      cases htext
      exact hv
    | _ => cases htext
  · exact fun h => ⟨.string s, h, rfl⟩

/-- A list of nothing but texts is as long as its texts. -/
theorem length_texts {items : List Value} (h : ∀ v ∈ items, ∃ s, v = .string s) :
    (texts items).length = items.length := by
  rw [texts, List.filterMap_length_eq_length]
  intro v hv
  obtain ⟨s, rfl⟩ := h v hv
  rfl

theorem length_fault? {s : String} : (Validator.length min max).fault? (.string s) = none ↔
    Within min max s.toList.length :=
  boundFault?_eq_none

theorem oneOf_fault? {s : String} : (oneOf options).fault? (.string s) = none ↔ s ∈ options := by
  simp [fault?, Value.toString?]

theorem subsetOf_fault? {items : List Value} : (subsetOf options min max).fault? (.list items) = none ↔
    (∀ s, .string s ∈ items → s ∈ options) ∧ Within min max (texts items).length := by
  have hfind : (texts items).find? (fun s => !options.contains s) = none ↔ ∀ s, .string s ∈ items → s ∈ options := by
    simp [List.find?_eq_none, mem_texts]
  simp only [fault?, Value.toList?, Option.getD_some]
  rw [← texts]
  cases hbad : (texts items).find? (fun s => !options.contains s) with
  | some bad =>
    simp only [reduceCtorEq, false_iff]
    intro h
    rw [hfind.mpr h.1] at hbad
    cases hbad
  | none => simpa only [boundFault?_eq_none] using ⟨fun h => ⟨hfind.mp hbad, h⟩, And.right⟩

end Validator

/-! ### Requirements -/

/-- An object that fits a closed schema has the fields that the schema requires. -/
theorem Schema.required_fits {known : List (String × Schema)} {names : List String} {fs : Fields} {name : String}
    (h : (closedObject known names).violations (.object fs) = []) (hknown : known ≠ []) (hname : name ∈ names) :
    ∃ v, Fields.get? name fs = some v := by
  have hclosed : closedObject known names = .all [.fields known true, .required names, .ofType [.object]] := by
    simp [closedObject, hknown, List.ne_nil_of_mem hname]
  simp only [hclosed, violations, violationsOfAll, List.append_eq_nil_iff, List.map_eq_nil_iff,
    List.filter_eq_nil_iff] at h
  have hhas := h.2.1 name hname
  rw [Bool.not_eq_true', Bool.not_eq_false, Fields.has] at hhas
  exact Option.isSome_iff_exists.mp hhas

namespace Component
variable {kind : InputKind} {props : Fields} {r : Requirement}

theorem askRequirement_ok (h : askRequirement kind props = .ok r) :
    r.kind = kind ∧ validators kind props = .ok r.validators := by
  unfold askRequirement at h
  split at h
  · cases h
  · split at h
    · cases h
    · rename_i hv
      cases h
      exact ⟨rfl, hv⟩

/-- Where the validators can be made, props that fit make a requirement. -/
theorem exists_askRequirement (kind : InputKind) {vs : List Validator} (hfits : (askSchema kind).violations (.object props) = [])
    (hv : validators kind props = .ok vs) :
    ∃ r, askRequirement kind props = .ok r ∧ r.kind = kind ∧ r.validators = vs := by
  obtain ⟨known, hschema, hknown⟩ := name_schema kind
  rw [hschema] at hfits
  have hne : known ≠ [] := fun hnil => by
    rw [hnil] at hknown
    cases hknown
  obtain ⟨v, hname⟩ := Schema.required_fits hfits hne List.mem_cons_self
  obtain ⟨name, rfl, -⟩ := Schema.matching_fits (Schema.known_fits hfits hknown hname)
  have htext : Fields.text? "name" props = some name := by rw [Fields.text?, hname]; rfl
  simp only [askRequirement, htext, hv]
  exact ⟨_, rfl, rfl, rfl⟩

end Component

namespace Requirement
variable {r : Requirement} {props : Fields} {a v w : Value}
open Component Validator

/-- Props declare an option that stands for a text. -/
def Declares (props : Fields) (s : String) : Prop :=
  ∃ options, Fields.get? "options" props = some (.list options) ∧
    (.string s ∈ options ∨ ∃ fields, .object fields ∈ options ∧ Fields.get? "value" fields = some (.string s))

theorem optionValue?_eq_some {o : Value} {s : String} : optionValue? o = some s ↔
    o = .string s ∨ ∃ fields, o = .object fields ∧ Fields.get? "value" fields = some (.string s) := by
  cases o with
  | string t => simp [optionValue?]
  | object fields =>
    simp only [optionValue?, Fields.text?, Option.bind_eq_some_iff]
    constructor
    · rintro ⟨x, hx, htext⟩
      cases x with
      | string t =>
        cases htext
        exact .inr ⟨fields, rfl, hx⟩
      | _ => cases htext
    · rintro (h | ⟨fields', h, hvalue⟩)
      · cases h
      · cases h
        exact ⟨.string s, hvalue, rfl⟩
  | _ => simp [optionValue?]

theorem mem_optionValues {s : String} : s ∈ optionValues props ↔ Declares props s := by
  rw [optionValues, List.mem_filterMap, Declares]
  cases hoptions : Fields.get? "options" props with
  | none => simp
  | some o =>
    cases o with
    | list options =>
      simp only [Option.bind_some, Value.toList?, Option.getD_some, Option.some.injEq, Value.list.injEq,
        exists_eq_left', optionValue?_eq_some]
      constructor
      · rintro ⟨o, ho, rfl | ⟨fields, rfl, hvalue⟩⟩
        · exact .inl ho
        · exact .inr ⟨fields, ho, hvalue⟩
      · rintro (ho | ⟨fields, ho, hvalue⟩)
        · exact ⟨_, ho, .inl rfl⟩
        · exact ⟨_, ho, .inr ⟨fields, rfl, hvalue⟩⟩
    | _ => simp [Value.toList?]

/-! ### Accepted choices -/

theorem admits_of_singleton {p : Validator} (hdate : r.kind ≠ .date) (hvalidators : r.validators = [p]) :
    r.Admits v ↔ p.fault? v = none := by
  constructor
  · exact fun h => h.validators p (hvalidators ▸ List.mem_singleton_self p)
  · refine fun h => ⟨fun q hq => ?_, fun hkind => absurd hkind hdate⟩
    rw [hvalidators, List.mem_singleton] at hq
    exact hq ▸ h

theorem select_validate (h : askRequirement .select props = .ok r) (hv : coerce .select a = .ok v)
    (hblank : v.isBlank = false) : r.validate a = .ok w ↔ w = v ∧ ∃ s, v = .string s ∧ Declares props s := by
  obtain ⟨hkind, hvalidators⟩ := askRequirement_ok h
  obtain ⟨s, rfl⟩ := string_of_not_blank rfl hv hblank
  have hlist : r.validators = [.oneOf (optionValues props)] := (Except.ok.inj hvalidators).symm
  rw [validate_eq_ok (hkind ▸ hv) hblank, admits_of_singleton (by simp [hkind]) hlist, Validator.oneOf_fault?,
    mem_optionValues]
  simp

theorem multiSelect_validate (h : askRequirement .multiSelect props = .ok r) (hv : coerce .multiSelect a = .ok v)
    (hblank : v.isBlank = false) : ∃ items, v = .list items ∧ ∀ w, r.validate a = .ok w ↔
      w = v ∧ (∀ s, .string s ∈ items → Declares props s) ∧
        Within (Fields.count? "min" props) (Fields.count? "max" props) (Validator.texts items).length := by
  obtain ⟨hkind, hvalidators⟩ := askRequirement_ok h
  obtain ⟨items, rfl⟩ := list_of_not_blank rfl hv hblank
  have hlist : r.validators =
      [.subsetOf (optionValues props) (Fields.count? "min" props) (Fields.count? "max" props)] :=
    (Except.ok.inj hvalidators).symm
  refine ⟨items, rfl, fun w => ?_⟩
  rw [validate_eq_ok (hkind ▸ hv) hblank, admits_of_singleton (by simp [hkind]) hlist, Validator.subsetOf_fault?]
  simp only [mem_optionValues]

/-- The entries of a comma list are texts. -/
theorem texts_of_commaList {s : String} {items : List Value} (h : coerce .multiSelect (.string s) = .ok (.list items)) :
    ∀ x ∈ items, ∃ t, x = .string t := by
  cases h
  intro x hx
  obtain ⟨t, -, rfl⟩ := List.mem_map.mp hx
  exact ⟨t, rfl⟩

/-- Props that fit make a requirement of choices, and an answer that is not blank is accepted by it just as follows.
    A choice of one option is the value of a declared option. A choice of several is a list: the texts in it are
    values of declared options, and the number of texts lies within the bounds of the requirement. So if the list
    holds nothing but texts, as the list of every answer given as text does, then all its entries are values of
    declared options and their number lies within the bounds; entries that are not texts are not looked at. -/
theorem choice_declared (props : Fields) :
    ((Component.ask .select).schema.violations (.object props) = [] →
      ∃ r, askRequirement .select props = .ok r ∧ ∀ a v w, coerce .select a = .ok v → v.isBlank = false →
        (r.validate a = .ok w ↔ w = v ∧ ∃ s, v = .string s ∧ Declares props s)) ∧
    ((Component.ask .multiSelect).schema.violations (.object props) = [] →
      ∃ r options min max, askRequirement .multiSelect props = .ok r ∧ r.validators = [.subsetOf options min max] ∧
        ∀ a v, coerce .multiSelect a = .ok v → v.isBlank = false → ∃ items, v = .list items ∧
          (∀ w, r.validate a = .ok w ↔ w = v ∧ (∀ s, .string s ∈ items → Declares props s) ∧
            Within min max (Validator.texts items).length) ∧
          ((∀ x ∈ items, ∃ s, x = .string s) → ∀ w, r.validate a = .ok w ↔
            w = v ∧ (∀ x ∈ items, ∃ s, x = .string s ∧ Declares props s) ∧ Within min max items.length) ∧
          (∀ s, a = .string s → ∀ x ∈ items, ∃ t, x = .string t)) := by
  constructor
  · intro hfits
    obtain ⟨r, hr, -, -⟩ := exists_askRequirement .select hfits rfl
    exact ⟨r, hr, fun a v w hv hblank => select_validate hr hv hblank⟩
  · intro hfits
    obtain ⟨r, hr, -, hvalidators⟩ := exists_askRequirement .multiSelect hfits rfl
    refine ⟨r, _, _, _, hr, hvalidators, fun a v hv hblank => ?_⟩
    obtain ⟨items, rfl, haccepted⟩ := multiSelect_validate hr hv hblank
    refine ⟨items, rfl, haccepted, fun htexts w => ?_, ?_⟩
    · rw [haccepted, length_texts htexts]
      -- As the list holds only texts, to look at its texts is to look at all of its entries.
      have hdeclared : (∀ s, .string s ∈ items → Declares props s) ↔
          ∀ x ∈ items, ∃ s, x = .string s ∧ Declares props s := by
        constructor
        · intro h x hx
          obtain ⟨s, rfl⟩ := htexts x hx
          exact ⟨s, rfl, h s hx⟩
        · intro h s hs
          obtain ⟨t, ht, hdeclared⟩ := h _ hs
          cases ht
          exact hdeclared
      rw [hdeclared]
    · rintro s rfl
      exact texts_of_commaList hv

/-- Props that declare two tags, one of them with a label. -/
def tagProps : Fields := [("name", .string "tag"),
  ("options", .list [.string "bug", .object [("label", .string "New"), ("value", .string "feature")]])]

/-- Both tags can be chosen, a third cannot. -/
theorem choice_declared_tags :
    (∃ r, askRequirement .select tagProps = .ok r ∧ r.validate (.string "feature") = .ok (.string "feature") ∧
      ∀ w, r.validate (.string "chore") ≠ .ok w) ∧
    ∃ r, askRequirement .multiSelect tagProps = .ok r ∧
      r.validate (.string "bug, feature") = .ok (.list [.string "bug", .string "feature"]) := by
  have hbug : Declares tagProps "bug" := ⟨_, rfl, .inl (by simp)⟩
  have hfeature : Declares tagProps "feature" := ⟨_, rfl, .inr ⟨_, List.mem_cons_of_mem _ List.mem_cons_self, rfl⟩⟩
  have hchore : ¬Declares tagProps "chore" := by
    rw [← mem_optionValues]
    decide +kernel
  obtain ⟨hselect, hmulti⟩ := choice_declared tagProps
  constructor
  · obtain ⟨r, hr, haccepted⟩ := hselect (by decide +kernel)
    refine ⟨r, hr, (haccepted _ _ _ rfl (by decide +kernel)).mpr ⟨rfl, "feature", rfl, hfeature⟩, fun w hw => ?_⟩
    obtain ⟨-, s, hs, hdeclared⟩ := (haccepted _ _ _ rfl (by decide +kernel)).mp hw
    cases hs
    exact hchore hdeclared
  · obtain ⟨r, options, min, max, hr, hvalidators, haccepted⟩ := hmulti (by decide +kernel)
    have hbounds : r.validators = [.subsetOf (optionValues tagProps) none none] :=
      (Except.ok.inj (askRequirement_ok hr).2).symm
    rw [hbounds] at hvalidators
    cases hvalidators
    have hcommas : Value.ofCommaList "bug, feature" = [.string "bug", .string "feature"] := by decide +kernel
    have hcoerce : coerce .multiSelect (.string "bug, feature") = .ok (.list [.string "bug", .string "feature"]) := by
      rw [← hcommas]
      rfl
    obtain ⟨items, hitems, -, htexts, hcomma⟩ := haccepted _ _ hcoerce rfl
    cases hitems
    refine ⟨r, hr, (htexts (hcomma _ rfl) _).mpr ⟨rfl, ?_, nofun, nofun⟩⟩
    simp [hbug, hfeature]

/-- It is not so that all entries of an accepted choice of several options are values of declared options. -/
theorem number_among_choices : ¬∀ (props : Fields) (r : Requirement) (a v w : Value),
    (Component.ask .multiSelect).schema.violations (.object props) = [] → askRequirement .multiSelect props = .ok r →
    coerce .multiSelect a = .ok v → v.isBlank = false → r.validate a = .ok w →
    ∃ items, w = .list items ∧ ∀ x ∈ items, ∃ s, x = .string s ∧ Declares props s := by
  intro h
  have hfits : (askSchema .multiSelect).violations (.object tagProps) = [] := by decide +kernel
  obtain ⟨r, hr, -, -⟩ := exists_askRequirement .multiSelect hfits rfl
  have hstored : r.validate (.list [.string "bug", Value.int 5]) = .ok (.list [.string "bug", Value.int 5]) := by
    cases hr
    rfl
  obtain ⟨items, hitems, hall⟩ := h tagProps r _ _ _ hfits hr rfl rfl hstored
  cases hitems
  obtain ⟨s, hs, -⟩ := hall (Value.int 5) (by simp)
  cases hs

end Requirement
end PromptForm
