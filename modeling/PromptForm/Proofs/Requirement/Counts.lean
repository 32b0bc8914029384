import PromptForm.Proofs.Component.Items
import PromptForm.Proofs.Requirement.Choices

/-! # Declared counts

The schemas ask for integers, however these are written, so that `3.0` fits like `3`. But only what is written as an
integer is read as a count. Hence a bound or a number that is written so takes effect, and one that is written as a
float fits and bounds nothing (`Requirement.counts_honoured`, `Requirement.float_bound_ignored`). -/

namespace PromptForm

/-! ### Integers in props -/

theorem Number.order?_int (m n : Int) : (Number.int m).order? (.int n) = some (compare m n) := by
  simp [order?, binary?, twoTo]

theorem Schema.le_of_integerFrom {least n : Int} (h : (integerFrom least).violations (Value.int n) = []) : least ≤ n := by
  simp only [integerFrom, violations, violationsOfAll, Value.int, Number.order?_int, List.append_eq_nil_iff] at h
  rcases Int.lt_or_le n least with hlt | hge
  · have hcompare : compare n least = .lt := Int.compare_eq_lt.mpr hlt
    simp [hcompare] at h
  · exact hge

theorem Fields.count?_eq_some {key : String} {props : Fields} {n : Nat} :
    count? key props = some n ↔ get? key props = some (Value.int n) := by
  rw [count?, Option.bind_eq_some_iff]
  constructor
  · rintro ⟨v, hv, hcount⟩
    cases v with
    | number num =>
      cases num with
      | int m =>
        simp only [Value.toCount?, Value.toNumber?, Option.bind_some, Number.toCount?] at hcount
        split at hcount
        · rename_i hm
          cases hcount
          rw [Int.toNat_of_nonneg hm]
          exact hv
        · cases hcount
      | float x => cases hcount
    | _ => cases hcount
  · intro h
    exact ⟨_, h, by simp [Value.toCount?, Value.int, Value.toNumber?, Number.toCount?]⟩

/-- A count keeps to the bounds that props declare and write as integers. -/
structure Respects (props : Fields) (low high : String) (n : Nat) : Prop where
  least : ∀ m : Int, Fields.get? low props = some (Value.int m) → m ≤ n
  most : ∀ m : Int, Fields.get? high props = some (Value.int m) → n ≤ m

/-- The bounds of a count that fit are not negative, so that they are read as counts where they are integers. -/
theorem within_counts {props : Fields} {known : List (String × Schema)} {names : List String} {low high : String}
    {least most : Int} {n : Nat} (hfits : (Schema.closedObject known names).violations (.object props) = [])
    (hlow : Fields.get? low known = some (Schema.integerFrom least)) (hleast : 0 ≤ least)
    (hhigh : Fields.get? high known = some (Schema.integerFrom most)) (hmost : 0 ≤ most) :
    Within (Fields.count? low props) (Fields.count? high props) n ↔ Respects props low high n := by
  have hcount : ∀ {key : String} {bound : Int}, Fields.get? key known = some (Schema.integerFrom bound) → 0 ≤ bound →
      ∀ m : Int, Fields.get? key props = some (Value.int m) → ∃ k : Nat, m = k := fun hkey hbound m hm =>
    Int.eq_ofNat_of_zero_le (Int.le_trans hbound (Schema.le_of_integerFrom (Schema.known_fits hfits hkey hm)))
  constructor
  · intro h
    constructor
    · intro m hm
      obtain ⟨k, rfl⟩ := hcount hlow hleast m hm
      exact Int.ofNat_le.mpr (h.least k (Fields.count?_eq_some.mpr hm))
    · intro m hm
      obtain ⟨k, rfl⟩ := hcount hhigh hmost m hm
      exact Int.ofNat_le.mpr (h.most k (Fields.count?_eq_some.mpr hm))
  · intro h
    constructor
    · exact fun k hk => Int.ofNat_le.mp (h.least k (Fields.count?_eq_some.mp hk))
    · exact fun k hk => Int.ofNat_le.mp (h.most k (Fields.count?_eq_some.mp hk))

namespace Component

/-- The kinds whose answers have a length. -/
def lengthKinds : List InputKind := [.text, .editor, .secret]

theorem mem_lengthKinds {kind : InputKind} : kind ∈ lengthKinds ↔ kind = .text ∨ kind = .editor ∨ kind = .secret := by
  simp [lengthKinds]

theorem length_schema {kind : InputKind} (hkind : kind ∈ lengthKinds) : ∃ known,
    askSchema kind = Schema.closedObject known ["name"] ∧ Fields.get? "minLength" known = some (Schema.integerFrom 0) ∧
      Fields.get? "maxLength" known = some (Schema.integerFrom 0) := by
  rcases mem_lengthKinds.mp hkind with rfl | rfl | rfl <;> exact ⟨_, rfl, rfl, rfl⟩

theorem picks_schema : ∃ known, askSchema .multiSelect = Schema.closedObject known ["name"] ∧
    Fields.get? "min" known = some (Schema.integerFrom 0) ∧ Fields.get? "max" known = some (Schema.integerFrom 1) :=
  ⟨_, rfl, rfl, rfl⟩

end Component

namespace Requirement
variable {r : Requirement} {kind : InputKind} {props : Fields} {a v w : Value}
open Component

/-! ### Lengths -/

/-- A pattern that stands alone matches a text from end to end. -/
def Matches (source s : String) : Prop :=
  ∃ p, Validator.wholePattern? source = some p ∧ p.matchesIn s.toList = true

theorem pattern_fault? {source s : String} :
    (Validator.pattern source).fault? (.string s) = none ↔ Matches source s := by
  unfold Matches
  cases h : Validator.wholePattern? source with
  | none => simp [Validator.fault?, h]
  | some p => cases hmatch : p.matchesIn s.toList <;> simp [Validator.fault?, h, Value.toString?, hmatch]

theorem ifBounded_length {min max : Option Nat} {s : String} :
    (∀ p ∈ ifBounded .length min max, p.fault? (.string s) = none) ↔ Within min max s.toList.length := by
  unfold ifBounded
  split
  · rw [List.forall_mem_singleton]
    exact Validator.length_fault?
  · rename_i hnone
    rw [Bool.or_eq_true, not_or, Bool.not_eq_true, Bool.not_eq_true, Option.isSome_eq_false_iff,
      Option.isSome_eq_false_iff, Option.isNone_iff_eq_none, Option.isNone_iff_eq_none] at hnone
    obtain ⟨rfl, rfl⟩ := hnone
    exact ⟨fun _ => ⟨nofun, nofun⟩, fun _ => nofun⟩

theorem length_validators {vs : List Validator} {s : String} (hkind : kind ∈ lengthKinds)
    (h : Component.validators kind props = .ok vs) : (∀ p ∈ vs, p.fault? (.string s) = none) ↔
      (∀ source, Fields.text? "pattern" props = some source → Matches source s) ∧
        Within (Fields.count? "minLength" props) (Fields.count? "maxLength" props) s.toList.length := by
  -- All three kinds are validated in the same way.
  have hmade : Component.validators .text props = .ok vs := by
    rcases mem_lengthKinds.mp hkind with rfl | rfl | rfl <;> exact h
  cases hpattern : Fields.text? "pattern" props with
  | none =>
    simp only [Component.validators, hpattern] at hmade
    cases hmade
    simp [ifBounded_length]
  | some source =>
    simp only [Component.validators, hpattern] at hmade
    split at hmade
    · cases hmade
      rw [List.forall_mem_cons, ifBounded_length, pattern_fault?]
      simp
    · cases hmade

theorem length_validate (hkind : kind ∈ lengthKinds) (hfits : (askSchema kind).violations (.object props) = [])
    (h : askRequirement kind props = .ok r) (hv : coerce kind a = .ok v) (hblank : v.isBlank = false) :
    ∃ s, v = .string s ∧ ∀ w, r.validate a = .ok w ↔
      w = v ∧ (∀ source, Fields.text? "pattern" props = some source → Matches source s) ∧
        Respects props "minLength" "maxLength" s.toList.length := by
  obtain ⟨hr, hvalidators⟩ := askRequirement_ok h
  have hshape : kind.type = .string ∧ kind ≠ .date := by
    rcases mem_lengthKinds.mp hkind with rfl | rfl | rfl <;> exact ⟨rfl, by simp⟩
  obtain ⟨s, rfl⟩ := string_of_not_blank hshape.1 hv hblank
  obtain ⟨known, hschema, hmin, hmax⟩ := length_schema hkind
  rw [hschema] at hfits
  refine ⟨s, rfl, fun w => ?_⟩
  rw [validate_eq_ok (hr ▸ hv) hblank, ← within_counts hfits hmin (by decide) hmax (by decide),
    ← length_validators hkind hvalidators]
  constructor
  · exact fun ⟨hw, hadmits⟩ => ⟨hw, hadmits.validators⟩
  · exact fun ⟨hw, hpasses⟩ => ⟨hw, hpasses, fun hdate => absurd (hr ▸ hdate) hshape.2⟩

/-! ### Picks -/

theorem picks_validate (hfits : (askSchema .multiSelect).violations (.object props) = [])
    (h : askRequirement .multiSelect props = .ok r) (hv : coerce .multiSelect a = .ok v) (hblank : v.isBlank = false) :
    ∃ items, v = .list items ∧ ∀ w, r.validate a = .ok w ↔
      w = v ∧ (∀ s, .string s ∈ items → Declares props s) ∧
        Respects props "min" "max" (Validator.texts items).length := by
  obtain ⟨known, hschema, hmin, hmax⟩ := picks_schema
  rw [hschema] at hfits
  obtain ⟨items, rfl, haccepted⟩ := multiSelect_validate h hv hblank
  refine ⟨items, rfl, fun w => ?_⟩
  rw [haccepted, within_counts hfits hmin (by decide) hmax (by decide)]

/-! ### Numbers of items -/

/-- The number of a step or a criterion that fits marks its item. -/
theorem number_marks {s : Setting} {scope : Scope} {tag : String} {raw : Fields} {n : Int}
    (hs : s.registry = Registry.standard) (htag : tag ∈ listTags) (hprops : s.expandProps scope raw = .ok props)
    (hfits : Component.listItem.schema.violations (.object props) = [])
    (hn : Fields.get? "number" props = some (Value.int n)) (room sections : Nat) (children : List Node) (d : Draft) :
    s.element (room + 2) tag raw children scope sections d =
      s.item room (toString n ++ ".") scope sections children d := by
  have hschema : Component.listItem.schema = Schema.closedObject [("number", Schema.integerFrom 1)] [] := rfl
  have hone : 1 ≤ n := Schema.le_of_integerFrom (Schema.known_fits (hschema ▸ hfits) rfl hn)
  obtain ⟨k, rfl⟩ := Int.eq_ofNat_of_zero_le (Int.le_trans (by decide) hone)
  exact Setting.element_listItem hs (Surroundings.handles_listItem hs htag hprops hfits) (Fields.count?_eq_some.mpr hn)
    room sections children d

/-! ### Declared counts -/

/-- Bounds and numbers that fit and are written as integers take effect. Of the answers of a text, an editor or a secret
    that are not blank those are accepted that match the pattern and whose length keeps to the bounds; of a choice of
    several options those whose texts are declared and in number keep to the bounds. A step or a criterion is an item
    that is marked with its number and a dot: where it holds more than blanks, it adds a line that begins so. -/
theorem counts_honoured (props : Fields) :
    (∀ kind ∈ lengthKinds, (Component.ask kind).schema.violations (.object props) = [] →
      ∀ r, askRequirement kind props = .ok r → ∀ a v, coerce kind a = .ok v → v.isBlank = false →
        ∃ s, v = .string s ∧ ∀ w, r.validate a = .ok w ↔
          w = v ∧ (∀ source, Fields.text? "pattern" props = some source → Matches source s) ∧
            Respects props "minLength" "maxLength" s.toList.length) ∧
    ((Component.ask .multiSelect).schema.violations (.object props) = [] →
      ∀ r, askRequirement .multiSelect props = .ok r → ∀ a v, coerce .multiSelect a = .ok v → v.isBlank = false →
        ∃ items, v = .list items ∧ ∀ w, r.validate a = .ok w ↔
          w = v ∧ (∀ s, .string s ∈ items → Declares props s) ∧
            Respects props "min" "max" (Validator.texts items).length) ∧
    (Component.listItem.schema.violations (.object props) = [] → ∀ n, Fields.get? "number" props = some (Value.int n) →
      ∀ (s : Setting) tag scope raw, s.registry = Registry.standard → tag ∈ listTags →
        s.expandProps scope raw = .ok props → ∀ room sections children d,
          s.element (room + 2) tag raw children scope sections d =
            s.item room (toString n ++ ".") scope sections children d ∧
          (Text.trim (s.walkAll (s.element room) scope sections children { d with text := [] }).text ≠ [] →
            ∃ rest, (s.element (room + 2) tag raw children scope sections d).text =
              d.text ++ (Output.freshLine d.text ++ (toString n ++ ".").toList ++ ' ' :: rest))) := by
  refine ⟨fun kind hkind hfits r hr a v hv hblank => ?_, fun hfits r hr a v hv hblank => ?_,
    fun hfits n hn s tag scope raw hs htag hprops room sections children d => ?_⟩
  · exact length_validate hkind hfits hr hv hblank
  · exact picks_validate hfits hr hv hblank
  · have hmarked := number_marks hs htag hprops hfits hn room sections children d
    refine ⟨hmarked, fun hbody => ?_⟩
    rw [hmarked]
    exact Setting.item_text hbody

/-- Props that bound the length of a text from below and from above. -/
def noteProps : Fields := [("maxLength", Value.int 5), ("minLength", Value.int 2), ("name", .string "note")]

/-- Props that ask for two options at least. -/
def pairProps : Fields := [("min", Value.int 2), ("name", .string "pair"),
  ("options", .list [.string "a", .string "b", .string "c"])]

/-- A text of four characters is accepted and one of a single character is not, two options are accepted and a single
    one is not, and a step that is numbered so begins with its number. -/
theorem counts_honoured_pair :
    (∃ r, askRequirement .text noteProps = .ok r ∧ r.validate (.string "bees") = .ok (.string "bees") ∧
      ∀ w, r.validate (.string "b") ≠ .ok w) ∧
    (∃ r, askRequirement .multiSelect pairProps = .ok r ∧
      r.validate (.list [.string "a", .string "c"]) = .ok (.list [.string "a", .string "c"]) ∧
      ∀ w, r.validate (.list [.string "b"]) ≠ .ok w) ∧
    ∃ rest, (Setting.element ⟨Surroundings.markdown, .final⟩ 2 "Step" [("number", Value.int 3)] [.text "Sift."]
      ⟨[], []⟩ 0 {}).text = "3. ".toList ++ rest := by
  obtain ⟨hlength, -, -⟩ := counts_honoured noteProps
  obtain ⟨-, hpicks, -⟩ := counts_honoured pairProps
  obtain ⟨-, -, hnumber⟩ := counts_honoured [("number", Value.int 3)]
  refine ⟨?_, ?_, ?_⟩
  · have hfits : (Component.ask .text).schema.violations (.object noteProps) = [] := by decide +kernel
    obtain ⟨r, hr, -, -⟩ := exists_askRequirement .text hfits rfl
    have haccepted := hlength .text (by decide) hfits r hr
    have hunmatched : Fields.text? "pattern" noteProps = none := rfl
    refine ⟨r, hr, ?_, fun w hw => ?_⟩
    · obtain ⟨s, hs, hvalidate⟩ := haccepted (.string "bees") _ rfl (by decide +kernel)
      cases hs
      refine (hvalidate _).mpr ⟨rfl, by simp [hunmatched], ?_, ?_⟩
      · intro m hm
        cases hm
        decide
      · intro m hm
        cases hm
        decide
    · obtain ⟨s, hs, hvalidate⟩ := haccepted (.string "b") _ rfl (by decide +kernel)
      cases hs
      have hleast := ((hvalidate w).mp hw).2.2.least 2 rfl
      exact absurd hleast (by decide)
  · have hfits : (Component.ask .multiSelect).schema.violations (.object pairProps) = [] := by decide +kernel
    obtain ⟨r, hr, -, -⟩ := exists_askRequirement .multiSelect hfits rfl
    have haccepted := hpicks hfits r hr
    refine ⟨r, hr, ?_, fun w hw => ?_⟩
    · obtain ⟨items, hitems, hvalidate⟩ := haccepted (.list [.string "a", .string "c"]) _ rfl rfl
      cases hitems
      refine (hvalidate _).mpr ⟨rfl, fun s hs => ⟨_, rfl, .inl ?_⟩, ?_, ?_⟩
      · simp only [List.mem_cons, List.not_mem_nil, or_false] at hs
        rcases hs with hs | hs <;> cases hs <;> simp
      · intro m hm
        cases hm
        decide
      · intro m hm
        cases hm
    · obtain ⟨items, hitems, hvalidate⟩ := haccepted (.list [.string "b"]) _ rfl rfl
      cases hitems
      have hleast := ((hvalidate w).mp hw).2.2.least 2 rfl
      exact absurd hleast (by decide)
  · obtain ⟨-, htext⟩ := hnumber (by decide +kernel) 3 rfl ⟨Surroundings.markdown, .final⟩ "Step" ⟨[], []⟩
      [("number", Value.int 3)] rfl (by decide) rfl 0 0 [.text "Sift."] {}
    obtain ⟨rest, hrest⟩ := htext (by decide +kernel)
    exact ⟨rest, hrest⟩

/-- It is not so that every least length that fits takes effect. -/
theorem float_bound_ignored : ¬∀ (props : Fields) (r : Requirement) (a v w : Value) (num : Number) (n : Int),
    (Component.ask .text).schema.violations (.object props) = [] → askRequirement .text props = .ok r →
    Fields.get? "minLength" props = some (.number num) → num.whole? = some n → coerce .text a = .ok v →
    v.isBlank = false → r.validate a = .ok w → ∃ s, w = .string s ∧ n ≤ s.toList.length := by
  intro h
  let props : Fields := [("minLength", .number (.float 3)), ("name", .string "note")]
  have hfits : (Component.ask .text).schema.violations (.object props) = [] := by decide +kernel
  obtain ⟨r, hr, -, -⟩ := exists_askRequirement .text hfits rfl
  have hstored : r.validate (.string "ab") = .ok (.string "ab") := by
    cases hr
    rfl
  obtain ⟨s, hs, hlength⟩ := h props r _ _ _ (.float 3) 3 hfits hr rfl (by decide +kernel) rfl (by decide +kernel) hstored
  cases hs
  exact absurd hlength (by decide)

end Requirement
end PromptForm
