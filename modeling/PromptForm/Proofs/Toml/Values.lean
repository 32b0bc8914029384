import PromptForm.Proofs.Number.Texts
import PromptForm.Proofs.Toml.Strings
import PromptForm.Toml.Printer
import PromptForm.Toml.Reader

/-! # Values of configuration files, written and read back

A string is written between quotes. Everything else is a word without quotes, which goes as far as its characters do
and is then read as a whole (`Toml.value?_scalar`): digits alone are a count and nothing else (`Toml.scalar?_toDigits`),
and a float is what its text says. What an entry holds so reads back (`Toml.value?_write`). -/

namespace PromptForm.Toml
variable {rest : List Char} {fuel : Nat}

/-! ### Words -/

/-- A character of a word is not a character that ends words. -/
theorem ne_of_word {p : Char → Bool} {c d : Char} (hc : p c = true) (hd : p d = false) : c ≠ d := by
  rintro rfl
  rw [hc] at hd
  cases hd

theorem isBlank_of_word {p : Char → Bool} {c : Char} (hc : p c = true) (hspace : p ' ' = false)
    (htab : p '\t' = false) : isBlank c = false := by
  simp [isBlank, ne_of_word hc hspace, ne_of_word hc htab]

theorem takeWhile_word {p : Char → Bool} {word : List Char} {d : Char} (hword : ∀ c ∈ word, p c = true)
    (hd : p d = false) (rest : List Char) : (word ++ d :: rest).takeWhile p = word := by
  rw [List.takeWhile_append_of_pos hword, List.takeWhile_cons_of_neg (by simp [hd]), List.append_nil]

theorem dropWhile_word {p : Char → Bool} {word : List Char} {d : Char} (hword : ∀ c ∈ word, p c = true)
    (hd : p d = false) (rest : List Char) : (word ++ d :: rest).dropWhile p = d :: rest := by
  rw [List.dropWhile_append_of_pos hword, List.dropWhile_cons_of_neg (by simp [hd])]

theorem lineString?_of_ne {c : Char} (hquote : c ≠ '"') (happostrophe : c ≠ '\'') (cs : List Char) :
    lineString? (c :: cs) = none := by
  unfold lineString?
  split
  · next heq => exact absurd (List.cons_eq_cons.mp heq).1 hquote
  · next heq => exact absurd (List.cons_eq_cons.mp heq).1 happostrophe
  · rfl

/-! ### Values -/

theorem splitScalar_word {word : List Char} (hword : ∀ c ∈ word, isScalarChar c = true) (rest : List Char) :
    splitScalar (word ++ '\n' :: rest) = (word, '\n' :: rest) := by
  rw [splitScalar, takeWhile_word hword (by decide), dropWhile_word hword (by decide)]
  rfl

theorem scalar?_nil : scalar? [] = none := by decide +kernel

/-- A text that stands without quotes in the place of a value. -/
theorem value?_scalar {word : List Char} {v : Value} (room : Nat) (hword : ∀ c ∈ word, isScalarChar c = true)
    (hv : scalar? word = some v) (rest : List Char) :
    value? (fuel + 1) room (word ++ '\n' :: rest) = some (v, '\n' :: rest) := by
  cases word with
  | nil =>
    rw [scalar?_nil] at hv
    cases hv
  | cons c cs =>
    have hc := hword c List.mem_cons_self
    have hquote : c ≠ '"' := ne_of_word hc (by decide)
    have happostrophe : c ≠ '\'' := ne_of_word hc (by decide)
    have hstring : string? (c :: cs ++ '\n' :: rest) = none := by
      rw [List.cons_append, string?_line, lineString?_of_ne hquote happostrophe]
      · exact fun h => hquote (List.cons_prefix_cons.mp h).1.symm
      · exact fun h => happostrophe (List.cons_prefix_cons.mp h).1.symm
    rw [value?, hstring, splitScalar_word hword]
    · simp only [hv, Option.map_some]
    · exact fun _ heq => ne_of_word hc (by decide) (List.cons_eq_cons.mp heq).1
    · exact fun _ heq => ne_of_word hc (by decide) (List.cons_eq_cons.mp heq).1

/-! ### Counts -/

theorem natOfDigits_toDigits (n : Nat) : Number.natOfDigits (Nat.toDigits 10 n) = n :=
  Nat.ofDigitChars_eq_foldl.symm.trans Nat.ofDigitChars_ten_toDigits

theorem head?_toDigits {n : Nat} (hn : 0 < n) : (Nat.toDigits 10 n).head? ≠ some '0' := by
  induction n using Nat.base_induction 10 (by decide) with
  | single m hm =>
    rw [Nat.toDigits_of_lt_base hm]
    have hall : ∀ m < 10, 0 < m → [m.digitChar].head? ≠ some '0' := by decide
    exact hall m hm hn
  | digit m k hk hm ih =>
    rw [← Nat.toDigits_append_toDigits (by decide) hm hk, List.head?_append]
    obtain ⟨c, hc⟩ := Option.isSome_iff_exists.mp (List.isSome_head?.mpr (Nat.toDigits_ne_nil (n := m) (b := 10)))
    rw [hc, Option.some_or, ← hc]
    exact ih hm

/-- Digits alone are read as their group. -/
theorem grouped?_digits {isDigit : Char → Bool} (hgroup : isDigit '_' = false) : ∀ {cs : List Char}, cs ≠ [] →
    (∀ c ∈ cs, isDigit c = true) → grouped? isDigit cs = some cs
  | [c], _, h => by simp [grouped?, h c List.mem_cons_self]
  | c :: d :: cs, _, h => by
    obtain ⟨hc, hcs⟩ := List.forall_mem_cons.mp h
    have hd : d ≠ '_' := by
      rintro rfl
      exact absurd (hcs _ List.mem_cons_self) (by simp [hgroup])
    rw [grouped?, if_pos hc, grouped?_digits hgroup (List.cons_ne_nil d cs) hcs]
    · rfl
    all_goals simp [hd]

theorem isDigit_toDigits (n : Nat) : ∀ c ∈ Nat.toDigits 10 n, c.isDigit = true := fun _ hc =>
  Nat.isDigit_of_mem_toDigits (by decide) (by decide) hc

theorem wholeDigits?_toDigits (n : Nat) : wholeDigits? (Nat.toDigits 10 n) = some (Nat.toDigits 10 n) := by
  rw [wholeDigits?, grouped?_digits (by decide) Nat.toDigits_ne_nil (isDigit_toDigits n), Option.filter_some, if_pos]
  rcases Nat.eq_zero_or_pos n with rfl | hn
  · decide
  · simp [head?_toDigits hn]

theorem integer?_ofNat {n : Nat} (hn : n < Number.twoTo 127) : integer? n = some (Value.int n) := by
  have hle : Number.twoTo 127 ≤ Number.twoTo 128 := Nat.pow_le_pow_right (by decide) (by decide)
  have hrange : -(Number.twoTo 127 : Int) ≤ n ∧ (n : Int) < Number.twoTo 128 := by
    generalize Number.twoTo 127 = low at *
    generalize Number.twoTo 128 = high at *
    omega
  rw [integer?, if_pos hrange]

theorem decimal?_toDigits {n : Nat} (hn : n < Number.twoTo 127) :
    decimal? false (Nat.toDigits 10 n) = some (Value.int n) := by
  have hgroup : ∀ c ∈ Nat.toDigits 10 n, isDigitOrGroup c = true := fun c hc => by
    simp [isDigitOrGroup, isDigit_toDigits n c hc]
  have htake : (Nat.toDigits 10 n).takeWhile isDigitOrGroup = Nat.toDigits 10 n := by
    rw [← List.append_nil (Nat.toDigits 10 n), List.takeWhile_append_of_pos hgroup, List.takeWhile_nil]
  have hdrop : (Nat.toDigits 10 n).dropWhile isDigitOrGroup = [] := by
    rw [← List.append_nil (Nat.toDigits 10 n), List.dropWhile_append_of_pos hgroup, List.dropWhile_nil]
  rw [decimal?, htake, hdrop, wholeDigits?_toDigits, Option.bind_eq_bind, Option.bind_some, natOfDigits_toDigits,
    ← integer?_ofNat hn]
  -- The bounds of integers are too large to be computed on the way.
  generalize integer? = read
  rfl

theorem takeChar?_digits {cs : List Char} (h : ∀ c ∈ cs, c.isDigit = true) (mark : Char)
    (hmark : mark.isDigit = false) : Calendar.Instant.takeChar? (· == mark) cs = none := by
  cases cs with
  | nil => rfl
  | cons c cs =>
    have hc : (c == mark) = false := by
      rw [beq_eq_false_iff_ne]
      rintro rfl
      rw [h _ List.mem_cons_self] at hmark
      cases hmark
    simp [Calendar.Instant.takeChar?, hc]

theorem takeDigits?_suffix {count n : Nat} {cs rest : List Char}
    (h : Calendar.Instant.takeDigits? count cs = some (n, rest)) : rest <:+ cs := by
  unfold Calendar.Instant.takeDigits? at h
  dsimp only at h
  split at h
  · cases h
    exact List.drop_suffix count cs
  · cases h

/-- Digits alone are neither a date nor a time. -/
theorem isMoment_digits {cs : List Char} (h : ∀ c ∈ cs, c.isDigit = true) : isMoment cs = false := by
  have hdate : dropDate? cs = none := by
    rw [dropDate?]
    cases hyear : Calendar.Instant.takeDigits? 4 cs with
    | none => rfl
    | some r =>
      have hrest : ∀ c ∈ r.2, c.isDigit = true := fun c hc => h c ((takeDigits?_suffix hyear).mem hc)
      simp only [Option.bind_eq_bind, Option.bind_some, takeChar?_digits hrest '-' (by decide), Option.bind_none]
  have htime : dropTime? cs = none := by
    rw [dropTime?]
    cases hhour : Calendar.Instant.takeDigits? 2 cs with
    | none => rfl
    | some r =>
      have hrest : ∀ c ∈ r.2, c.isDigit = true := fun c hc => h c ((takeDigits?_suffix hhour).mem hc)
      simp only [Option.bind_eq_bind, Option.bind_some, takeChar?_digits hrest ':' (by decide), Option.bind_none]
  rw [isMoment, hdate, htime]
  rfl

theorem takeSign_digits {cs : List Char} (h : ∀ c ∈ cs, c.isDigit = true) : Number.takeSign cs = (false, cs) := by
  unfold Number.takeSign
  split
  · exact absurd (h _ List.mem_cons_self) (by decide)
  · exact absurd (h _ List.mem_cons_self) (by decide)
  · rfl

/-- What is written for a count reads back. -/
theorem scalar?_toDigits {n : Nat} (hn : n < Number.twoTo 127) : scalar? (Nat.toDigits 10 n) = some (Value.int n) := by
  have hdigit := isDigit_toDigits n
  have hword : ∀ c, c.isDigit = false → ∀ cs, Nat.toDigits 10 n ≠ c :: cs := fun c hc cs heq => by
    rw [hdigit c (heq ▸ List.mem_cons_self)] at hc
    cases hc
  have hbase : ∀ c, c.isDigit = false → ∀ cs, Nat.toDigits 10 n ≠ '0' :: c :: cs := fun c hc cs heq => by
    rw [hdigit c (heq ▸ List.mem_cons_of_mem _ List.mem_cons_self)] at hc
    cases hc
  -- Digits are no name, no moment, and have no sign and no mark of a base.
  rw [scalar?, if_neg (hword _ (by decide) _), if_neg (hword _ (by decide) _),
    if_neg (by simp [isMoment_digits hdigit]), number?, takeSign_digits hdigit]
  · change signed? false (Nat.toDigits 10 n) = _
    rw [signed?, if_neg (hword _ (by decide) _), if_neg (hword _ (by decide) _), decimal?_toDigits hn]
  all_goals exact hbase _ (by decide)

/-- What is written for a string begins with a quote. -/
theorem exists_quoted (s : List Char) : ∃ q cs, quoted s = q :: cs ∧ (q = '"' ∨ q = '\'') := by
  rw [quoted]
  cases Style.of s with
  | basic => exact ⟨_, _, rfl, .inl rfl⟩
  | literal => exact ⟨_, _, rfl, .inr rfl⟩
  | multiBasic => exact ⟨_, _, rfl, .inl rfl⟩
  | multiLiteral => exact ⟨_, _, rfl, .inr rfl⟩

theorem value?_quoted (room : Nat) (s : String) (rest : List Char) :
    value? (fuel + 1) room (quoted s.toList ++ '\n' :: rest) = some (.string s, '\n' :: rest) := by
  have hstring : string? (quoted s.toList ++ '\n' :: rest) = some (s.toList, '\n' :: rest) :=
    string?_quoted s.toList (by simp) (by simp)
  obtain ⟨q, cs, hq, hquote⟩ := exists_quoted s.toList
  rw [value?, hstring]
  · simp only [String.ofList_toList]
  · rw [hq]
    rcases hquote with rfl | rfl <;> exact fun _ heq => absurd (List.cons_eq_cons.mp heq).1 (by decide)
  · rw [hq]
    rcases hquote with rfl | rfl <;> exact fun _ heq => absurd (List.cons_eq_cons.mp heq).1 (by decide)

/-! ### What an entry holds -/

@[simp] theorem Plain.toValue_string (s : String) : (Plain.string s).toValue = .string s := rfl
@[simp] theorem Plain.toValue_bool (b : Bool) : (Plain.bool b).toValue = .bool b := rfl
@[simp] theorem Plain.toValue_count (n : Nat) : (Plain.count n).toValue = .int n := rfl
@[simp] theorem Plain.toValue_float (x : Float) : (Plain.float x).toValue = .float x := rfl

/-- What reads back: a count that fits an integer, and a float whose text is read as it. -/
def Plain.ReadsBack : Plain → Prop
  | .string _ | .bool _ => True
  | .count n => n < Number.twoTo 127
  | .float x => scalar? (Number.Layout.fraction.text x).toList = some (.float x)

theorem isScalarChar_text (x : Float) : ∀ c ∈ (Number.Layout.fraction.text x).toList, isScalarChar c = true := by
  have hnames : (Number.Layout.fraction.notANumber.toList ++ Number.Layout.fraction.infinity.toList).all isScalarChar =
      true := by decide
  intro c hc
  rcases Number.Layout.fraction.mem_text x hc with hnumber | hname
  · simp only [Number.isNumberChar, Bool.or_eq_true, beq_iff_eq] at hnumber
    rcases hnumber with (((hdigit | rfl) | rfl) | rfl) | rfl
    · simp [isScalarChar, Char.isAlphanum, hdigit]
    all_goals decide
  · exact List.all_eq_true.mp hnames c (List.mem_append.mpr hname)

theorem Plain.string_or (p : Plain) : (∃ s, p = .string s) ∨ ∀ s, p ≠ .string s := by
  cases p <;> simp

/-- Only strings are written with quotes. -/
theorem Plain.isScalarChar_write {p : Plain} (hp : ∀ s, p ≠ .string s) : ∀ c ∈ p.write, isScalarChar c = true := by
  cases p with
  | string s => exact absurd rfl (hp s)
  | bool b => exact List.all_eq_true.mp (by cases b <;> decide)
  | count n => exact fun c hc => by simp [isScalarChar, Char.isAlphanum, isDigit_toDigits n c hc]
  | float x => exact isScalarChar_text x

theorem Plain.scalar?_write {p : Plain} (hp : ∀ s, p ≠ .string s) (h : p.ReadsBack) :
    scalar? p.write = some p.toValue := by
  cases p with
  | string s => exact absurd rfl (hp s)
  | bool b => cases b <;> rfl
  | count n => exact scalar?_toDigits h
  | float x => exact h

/-- What is written for an entry reads back. -/
theorem value?_write {p : Plain} (h : p.ReadsBack) (room : Nat) (rest : List Char) :
    value? (fuel + 1) room (p.write ++ '\n' :: rest) = some (p.toValue, '\n' :: rest) := by
  rcases p.string_or with ⟨s, rfl⟩ | hp
  · exact value?_quoted room s rest
  · exact value?_scalar room (Plain.isScalarChar_write hp) (Plain.scalar?_write hp h) rest

/-- No blank stands before a value. -/
theorem skipBlanks_write (p : Plain) (rest : List Char) :
    skipBlanks (p.write ++ '\n' :: rest) = p.write ++ '\n' :: rest := by
  have hhead : ∀ c cs, p.write = c :: cs → isBlank c = false := by
    intro c cs heq
    rcases p.string_or with ⟨s, rfl⟩ | hp
    · obtain ⟨q, qs, hq, hquote⟩ := exists_quoted s.toList
      obtain rfl : q = c := (List.cons_eq_cons.mp (hq.symm.trans heq)).1
      rcases hquote with rfl | rfl <;> rfl
    · exact isBlank_of_word (Plain.isScalarChar_write hp c (heq ▸ List.mem_cons_self)) (by decide) (by decide)
  cases hwrite : p.write with
  | nil => rfl
  | cons c cs => rw [List.cons_append, skipBlanks, List.dropWhile_cons_of_neg (by simp [hhead c cs hwrite])]

end PromptForm.Toml
