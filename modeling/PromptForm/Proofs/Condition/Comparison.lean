import PromptForm.Condition.Basic
import PromptForm.Proofs.Growth.Scope

/-! # The laws of comparisons

All six comparisons are read off one order of two values, which may be missing. When the values change places the order is
swapped, for floats (`floatOrder?_swap`), for texts and truth values, and for values that are only equal or not
(`Value.same_comm`). So the six comparisons fit together for all values, and nothing counts as the neutral value of what it
is compared with (`Comparison.coherent`). -/

namespace PromptForm

/-! ### Floats -/

theorem compare_then_swap (m n : Nat) (e f : Int) :
    (compare f e).then (compare n m) = ((compare e f).then (compare m n)).swap := by
  rw [Ordering.swap_then, Int.compare_swap, Nat.compare_swap]

theorem unpacked_compare_swap (x y : Float.Model.UnpackedFloat) : y.compare x = (x.compare y).map Ordering.swap := by
  cases x with
  | notANumber => cases y <;> rfl
  | infinity s =>
    cases y with
    | infinity t => cases s <;> cases t <;> rfl
    | _ => cases s <;> rfl
  | zero s =>
    cases y with
    | infinity t => cases t <;> rfl
    | finite t => cases t <;> rfl
    | _ => rfl
  | finite s m e =>
    cases y with
    | finite t n f =>
      -- Of numbers with one sign the exponents are compared, then the mantissas.
      cases s with
      | positive =>
        cases t with
        | positive => exact congrArg some (compare_then_swap m n e f)
        | negative => rfl
      | negative =>
        cases t with
        | positive => rfl
        | negative => exact congrArg (some ·.swap) (compare_then_swap m n e f)
    | infinity t => cases t <;> rfl
    | zero => cases s <;> rfl
    | notANumber => cases s <;> rfl

theorem float_beq_swap (a b : Float) : (b == a) = (a == b) := by
  show (b.toModel.unpack.compare a.toModel.unpack == some .eq) = (a.toModel.unpack.compare b.toModel.unpack == some .eq)
  rw [unpacked_compare_swap]
  cases a.toModel.unpack.compare b.toModel.unpack with
  | none => rfl
  | some o => cases o <;> rfl

/-! ### Equality -/

theorem Number.same_comm (a b : Number) : a.same b = b.same a := by
  cases a <;> cases b
  · exact Bool.beq_comm
  · rfl
  · rfl
  · exact float_beq_swap _ _

namespace Value

mutual
theorem same_comm : ∀ a b : Value, a.same b = b.same a
  | .null, b => by cases b <;> rfl
  | .bool x, b => by
    cases b with
    | bool y => exact Bool.beq_comm
    | _ => rfl
  | .number m, b => by
    cases b with
    | number n => exact Number.same_comm m n
    | _ => rfl
  | .string s, b => by
    cases b with
    | string t => exact Bool.beq_comm
    | _ => rfl
  | .list items, b => by
    cases b with
    | list others => exact sameItems_comm items others
    | _ => rfl
  | .object fields, b => by
    cases b with
    | object others => exact sameFields_comm fields others
    | _ => rfl
theorem sameItems_comm : ∀ as bs : List Value, sameItems as bs = sameItems bs as
  | [], bs => by cases bs <;> rfl
  | a :: as, [] => rfl
  | a :: as, b :: bs => by rw [sameItems, sameItems, same_comm a b, sameItems_comm as bs]
theorem sameFields_comm : ∀ as bs : Fields, sameFields as bs = sameFields bs as
  | [], bs => by cases bs <;> rfl
  | (k, a) :: as, [] => rfl
  | (k, a) :: as, (l, b) :: bs => by rw [sameFields, sameFields, Bool.beq_comm, same_comm a b, sameFields_comm as bs]
end

end Value

/-! ### The order of two values -/

namespace Comparison
variable {a b : Value}

theorem floatOrder?_eq (a b : Float) : floatOrder? a b = a.toModel.unpack.compare b.toModel.unpack := by
  have hlt : ∀ a b : Float, a < b ↔ a.toModel.unpack.compare b.toModel.unpack = some .lt := fun a b => by
    show decide (a.toModel < b.toModel) = true ↔ _
    rw [decide_eq_true_iff]
    exact beq_iff_eq
  have hbeq : (a == b) = (a.toModel.unpack.compare b.toModel.unpack == some .eq) := rfl
  unfold floatOrder?
  rw [hbeq]
  simp only [hlt, unpacked_compare_swap a.toModel.unpack]
  cases a.toModel.unpack.compare b.toModel.unpack with
  | none => rfl
  | some o => cases o <;> rfl

theorem floatOrder?_swap (a b : Float) : floatOrder? b a = (floatOrder? a b).map Ordering.swap := by
  rw [floatOrder?_eq, floatOrder?_eq, unpacked_compare_swap]

/-- When the values change places, the order is swapped. -/
theorem order?_swap (a b : Value) : order? b a = (order? a b).map Ordering.swap := by
  unfold order?
  rw [Bool.or_comm (isNumber b), Bool.or_comm (isBool b), Bool.or_comm (isString b), Bool.and_comm b.isNull]
  split
  · cases number? a with
    | none => cases number? b <;> rfl
    | some x =>
      cases number? b with
      | none => rfl
      | some y => exact floatOrder?_swap x y
  · split
    · exact congrArg some Std.OrientedCmp.eq_swap
    · split
      · exact congrArg some Std.OrientedCmp.eq_swap
      · rw [Value.same_comm]
        cases a.same b <;> rfl

/-! ### Neutral values -/

/-- What null counts as beside a value: zero beside numbers, the empty text beside texts, false beside truth values. -/
def neutral : Value → Value
  | .number _ => Value.int 0
  | .string _ => .string ""
  | .bool _ => .bool false
  | _ => .null

theorem order?_null (v : Value) : order? .null v = order? (neutral v) v := by
  cases v with
  | number n =>
    have hzero : number? .null = number? (Value.int 0) := by decide +kernel
    simp only [neutral, order?, isNumber, hzero, Bool.or_true]
    rfl
  | string s => simp [neutral, order?, isNumber, isBool, isString, textOf]
  | bool b => simp [neutral, order?, isNumber, isBool, truth, Value.truthy]
  | null | list _ | object _ => rfl

/-! ### The comparisons -/

/-- The comparison with its sides exchanged. -/
def mirrored : Comparison → Comparison
  | .eq => .eq
  | .ne => .ne
  | .lt => .gt
  | .le => .ge
  | .gt => .lt
  | .ge => .le

theorem admits_swap (op : Comparison) (order : Option Ordering) :
    op.admits (order.map Ordering.swap) = op.mirrored.admits order := by
  cases order with
  | none => cases op <;> rfl
  | some o => cases op <;> cases o <;> rfl

theorem holds_swap (op : Comparison) (a b : Value) : op.holds b a = op.mirrored.holds a b := by
  rw [holds, order?_swap, admits_swap, holds]

theorem holds_null (op : Comparison) (v : Value) :
    op.holds .null v = op.holds (neutral v) v ∧ op.holds v .null = op.holds v (neutral v) := by
  have hleft : ∀ op : Comparison, op.holds .null v = op.holds (neutral v) v := fun op => by rw [holds, order?_null, holds]
  refine ⟨hleft op, ?_⟩
  rw [holds_swap, hleft, ← holds_swap]

/-- The six comparisons of all values fit together: inequality denies equality, the weak comparisons hold if the strict one
    or equality does, and one of the other three holds at most. With the values exchanged the mirrored comparison holds. On
    either side null compares like the neutral value of the other side, and so does a name without a meaning. -/
theorem coherent (a b : Value) :
    (holds .ne a b = !holds .eq a b) ∧
    (holds .le a b = (holds .lt a b || holds .eq a b)) ∧
    (holds .ge a b = (holds .gt a b || holds .eq a b)) ∧
    ¬(holds .lt a b = true ∧ holds .eq a b = true) ∧ ¬(holds .gt a b = true ∧ holds .eq a b = true) ∧
    ¬(holds .lt a b = true ∧ holds .gt a b = true) ∧
    ∀ op : Comparison, op.holds b a = op.mirrored.holds a b ∧
      op.holds .null a = op.holds (neutral a) a ∧ op.holds a .null = op.holds a (neutral a) ∧
      ∀ (scope : Scope) path, scope.isResolved path = false →
        (Formula.compare op (.name path) (.literal a)).value scope = .bool (op.holds (neutral a) a) ∧
        (Formula.compare op (.literal a) (.name path)).value scope = .bool (op.holds a (neutral a)) := by
  -- What holds between two values depends on their order alone, and there are four cases of it.
  have hsix : ∀ order : Option Ordering, (admits .ne order = !admits .eq order) ∧
      (admits .le order = (admits .lt order || admits .eq order)) ∧
      (admits .ge order = (admits .gt order || admits .eq order)) ∧
      ¬(admits .lt order = true ∧ admits .eq order = true) ∧ ¬(admits .gt order = true ∧ admits .eq order = true) ∧
      ¬(admits .lt order = true ∧ admits .gt order = true) := fun order => by
    cases order with
    | none => decide
    | some o => cases o <;> decide
  obtain ⟨hne, hle, hge, hlt, hgt, hboth⟩ := hsix (order? a b)
  refine ⟨hne, hle, hge, hlt, hgt, hboth, fun op => ?_⟩
  obtain ⟨hleft, hright⟩ := holds_null op a
  refine ⟨holds_swap op a b, hleft, hright, fun scope path hpath => ?_⟩
  have hnull : (Formula.name path).value scope = .null := Scope.get_of_not_isResolved hpath
  simp only [Formula.value] at hnull ⊢
  rw [hnull, hleft, hright]
  exact ⟨rfl, rfl⟩

/-- A count that is not known is less than five and equal to nothing but zero. -/
theorem coherent_count : (Scope.mk [] []).isResolved "count" = false ∧
    (Formula.compare .lt (.name "count") (.literal (Value.int 5))).value ⟨[], []⟩ = .bool true ∧
    (Formula.compare .eq (.literal (Value.int 5)) (.name "count")).value ⟨[], []⟩ = .bool false := by
  have hunknown : (Scope.mk [] []).isResolved "count" = false := by decide +kernel
  obtain ⟨-, -, -, -, -, -, hcompare⟩ := coherent (Value.int 5) .null
  obtain ⟨-, -, -, hless⟩ := hcompare .lt
  obtain ⟨-, -, -, hequal⟩ := hcompare .eq
  refine ⟨hunknown, (hless ⟨[], []⟩ "count" hunknown).1.trans ?_, (hequal ⟨[], []⟩ "count" hunknown).2.trans ?_⟩
  · decide +kernel
  · decide +kernel

end Comparison
end PromptForm
