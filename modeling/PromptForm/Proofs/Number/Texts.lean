import PromptForm.Number.Layout

/-! # Texts of numbers

A float is written with digits, a point, signs and the mark of an exponent, in whatever layout, unless it is not finite
and has a name (`Number.Layout.mem_text`). -/

namespace PromptForm.Number
variable {c : Char} {digits : List Char}

/-- The characters that finite numbers are written with. -/
def isNumberChar (c : Char) : Bool := c.isDigit || c == '.' || c == '-' || c == '+' || c == 'e'

@[simp] theorem isNumberChar_marks : isNumberChar '0' = true ∧ isNumberChar '.' = true ∧ isNumberChar '-' = true ∧
    isNumberChar '+' = true ∧ isNumberChar 'e' = true := by decide

theorem all_toDigits (n : Nat) : (Nat.toDigits 10 n).all isNumberChar = true := by
  rw [List.all_eq_true]
  intro c hc
  simp [isNumberChar, Nat.isDigit_of_mem_toDigits (by decide) (by decide) hc]

theorem all_take (h : digits.all isNumberChar = true) (n : Nat) : (digits.take n).all isNumberChar = true :=
  List.all_eq_true.mpr fun c hc => List.all_eq_true.mp h c (List.mem_of_mem_take hc)

theorem all_drop (h : digits.all isNumberChar = true) (n : Nat) : (digits.drop n).all isNumberChar = true :=
  List.all_eq_true.mpr fun c hc => List.all_eq_true.mp h c (List.mem_of_mem_drop hc)

theorem all_placed (h : digits.all isNumberChar = true) (whole : Int) (wholeFraction : Bool) :
    (placed digits whole wholeFraction).all isNumberChar = true := by
  unfold placed
  dsimp only
  split
  · simp [h]
  · split
    · cases wholeFraction <;> simp [h]
    · simp [all_take h, all_drop h]

theorem all_scientific (h : digits.all isNumberChar = true) (magnitude : Int) (plus : Bool) :
    (scientific digits magnitude plus).all isNumberChar = true := by
  have htail : (if (digits.drop 1).isEmpty then [] else '.' :: digits.drop 1).all isNumberChar = true := by
    split
    · rfl
    · rw [List.all_cons, all_drop h]
      rfl
  have hsign : (if magnitude < 0 then ['-'] else if plus then ['+'] else []).all isNumberChar = true := by
    split
    · rfl
    · cases plus <;> rfl
  unfold scientific
  dsimp only
  rw [List.append_assoc, List.all_append, List.all_append, List.cons_append, List.all_cons, List.all_append,
    all_take h, htail, hsign, all_toDigits]
  rfl

theorem Layout.all_decimal (l : Layout) (d : Decimal) : (l.decimal d).all isNumberChar = true :=
  iteInduction (motive := fun cs => List.all cs isNumberChar = true)
    (fun _ => all_placed (all_toDigits d.digits) _ _) fun _ => all_scientific (all_toDigits d.digits) _ _

/-- What is finite is written with the characters of numbers, and the rest has a name. -/
theorem Layout.mem_text (l : Layout) (x : Float) (h : c ∈ (l.text x).toList) :
    isNumberChar c = true ∨ c ∈ l.notANumber.toList ∨ c ∈ l.infinity.toList := by
  have hsign : ∀ negative : Bool, (if negative then "-" else "").toList.all isNumberChar = true := by decide
  have hzero : ∀ whole : Bool, (if whole then "0.0" else "0").toList.all isNumberChar = true := by decide
  simp only [List.all_eq_true] at hsign hzero
  unfold Layout.text at h
  dsimp only at h
  generalize (x.toBits.toNat / twoTo 63 == 1) = negative at h
  split at h
  · exact .inr (.inl h)
  · split at h
    · split at h
      · next hnull => exact .inr (.inr (by rwa [beq_iff_eq.mp hnull]))
      · rw [String.toList_append, List.mem_append] at h
        exact h.imp (hsign negative c) .inr
    · left
      split at h
      · rw [String.toList_append, List.mem_append] at h
        exact h.elim (hsign negative c) (hzero l.wholeFraction c)
      · rw [String.toList_append, List.mem_append, String.toList_ofList] at h
        exact h.elim (hsign negative c) (List.all_eq_true.mp (l.all_decimal _) c)

end PromptForm.Number
