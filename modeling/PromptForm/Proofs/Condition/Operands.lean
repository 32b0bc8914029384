import PromptForm.Proofs.Condition.Notation
import PromptForm.Proofs.Text.Parts

/-! # Reading single operands

Where a word, a number or a text of a condition ends is settled by what follows it: a blank, or a sign that belongs
to none of them (`Follows`). Up to there each reader takes exactly what was written. Readers are free to take the
blanks behind it as well, so that the rest counts up to blanks (`Reads`). -/

namespace PromptForm

/-! ### Blanks -/

namespace Text

/-- The code points of blanks. -/
def blankPoints : List Nat :=
  [9, 10, 11, 12, 13, 0x20, 0x85, 0xA0, 0x1680, 0x2000, 0x2001, 0x2002, 0x2003, 0x2004, 0x2005, 0x2006, 0x2007,
    0x2008, 0x2009, 0x200A, 0x2028, 0x2029, 0x202F, 0x205F, 0x3000]

theorem mem_blankPoints {c : Char} (h : isBlank c = true) : c.toNat ∈ blankPoints := by
  simp only [isBlank, Bool.or_eq_true, Bool.and_eq_true, decide_eq_true_eq, beq_iff_eq] at h
  simp only [blankPoints, List.mem_cons, List.not_mem_nil, or_false]
  omega

/-- What holds of the code points of blanks holds of every blank. -/
theorem forall_blank {p : Char → Bool} (h : (blankPoints.all fun n => p (Char.ofNat n)) = true) {c : Char}
    (hc : isBlank c = true) : p c = true := by
  have hpoint := List.all_eq_true.mp h c.toNat (mem_blankPoints hc)
  rwa [Char.ofNat_toNat] at hpoint

end Text

namespace Condition
open Reader

theorem not_isNamePart_of_isBlank {c : Char} (h : Text.isBlank c = true) : isNamePart c = false := by
  have hall : (Text.blankPoints.all fun n => !isNamePart (Char.ofNat n)) = true := by decide +kernel
  simpa using Text.forall_blank (p := fun c => !isNamePart c) hall h

theorem not_isNumberPart_of_isBlank {c : Char} (h : Text.isBlank c = true) : isNumberPart c = false := by
  have hall : (Text.blankPoints.all fun n => !isNumberPart (Char.ofNat n)) = true := by decide +kernel
  simpa using Text.forall_blank (p := fun c => !isNumberPart c) hall h

theorem skip_append {blanks cs : List Char} (h : ∀ c ∈ blanks, Text.isBlank c = true) :
    skip (blanks ++ cs) = skip cs := List.dropWhile_append_of_pos h

theorem skip_cons {c : Char} {cs : List Char} (h : Text.isBlank c = false) : skip (c :: cs) = c :: cs :=
  List.dropWhile_cons_of_neg (by simp [h])

theorem skip_skip : ∀ cs : List Char, skip (skip cs) = skip cs
  | [] => rfl
  | c :: cs => by
    by_cases hc : Text.isBlank c = true
    · simpa [skip, hc] using skip_skip cs
    · simp [skip, hc]

/-! ### What follows -/

/-- Behind blanks there is nothing, or one of these characters. -/
def Follows (allowed rest : List Char) : Prop := ∀ c tail, skip rest = c :: tail → c ∈ allowed

theorem Follows.mono {allowed allowed' rest : List Char} (h : Follows allowed rest) (hsub : allowed ⊆ allowed') :
    Follows allowed' rest := fun c tail hc => hsub (h c tail hc)

/-- The first characters of the signs that join formulas which bind more tightly. -/
def joiners : Nat → List Char
  | 0 => ['|']
  | 1 => ['&']
  | 3 => ['<', '>', '=', '!']
  | _ => []

/-- What may stand behind a formula of a certain strength: what ends it, and the signs that join it. -/
def followers : Nat → List Char
  | 0 => [')', ',']
  | k + 1 => followers k ++ joiners k

theorem followers_mono {j k : Nat} (h : j ≤ k) : followers j ⊆ followers k := by
  induction h with
  | refl => exact List.Subset.refl _
  | step _ ih => exact List.Subset.trans ih (List.subset_append_left _ _)

/-- No word and no number goes on here. -/
def Breaks (rest : List Char) : Prop := ∀ c tail, rest = c :: tail → isNamePart c = false ∧ isNumberPart c = false

theorem Follows.breaks {allowed rest : List Char} (h : Follows allowed rest)
    (hall : (allowed.all fun c => !isNamePart c && !isNumberPart c) = true) : Breaks rest := by
  rintro c tail rfl
  by_cases hc : Text.isBlank c = true
  · exact ⟨not_isNamePart_of_isBlank hc, not_isNumberPart_of_isBlank hc⟩
  · have hmem : c ∈ allowed := h c tail (skip_cons (by simpa using hc))
    simpa using List.all_eq_true.mp hall c hmem

theorem breaks_of_follows {rest : List Char} (h : Follows (followers 4) rest) : Breaks rest :=
  h.breaks (by decide)

/-! ### What readers give -/

/-- A reader takes something from the front of a text and leaves the rest, up to blanks. -/
def Reads {α : Type} (reader : List Char → Step α) (x : α) (cs rest : List Char) : Prop :=
  ∃ left, reader cs = .ok (x, left) ∧ skip left = skip rest

theorem eat?_congr {token cs cs' : List Char} (h : skip cs = skip cs') : eat? token cs = eat? token cs' := by
  simp only [eat?, h]

theorem eat?_eq_none {c : Char} {token cs : List Char} {allowed : List Char} (h : Follows allowed cs)
    (hc : c ∉ allowed) : eat? (c :: token) cs = none := by
  unfold eat?
  cases hskip : skip cs with
  | nil => rfl
  | cons d tail =>
    have hne : c ≠ d := fun heq => hc (heq ▸ h d tail hskip)
    simp [Text.afterPrefix?, hne]

/-! ### Texts -/

theorem textBody_cons {quote c : Char} (hc : c ≠ '\\') (cs : List Char) : textBody quote (c :: cs) =
    if c = quote then some ([], cs) else (textBody quote cs).map fun (body, rest) => (c :: body, rest) := by
  simp [textBody, hc]

theorem textBody_escaped {quote : Char} (hquote : quote ≠ '\\') (rest : List Char) : ∀ cs : List Char,
    textBody quote (escaped quote cs ++ quote :: rest) = some (cs, rest)
  | [] => by
    rw [escaped, List.nil_append, textBody_cons hquote, if_pos rfl]
  | c :: cs => by
    have ih := textBody_escaped hquote rest cs
    by_cases hc : c = quote ∨ c = '\\'
    · simp only [escaped, if_pos hc, List.cons_append, List.nil_append, textBody, ih, Option.map_some]
    · obtain ⟨hne, hslash⟩ := not_or.mp hc
      simp only [escaped, if_neg hc, List.cons_append, List.nil_append, textBody_cons hslash, if_neg hne, ih,
        Option.map_some]

/-! ### Numbers -/

theorem isNumberPart_of_mem_decimal {cs : List Char} (h : IsDecimal cs) : ∀ c ∈ cs, isNumberPart c = true := by
  have hdigits : ∀ {ds : List Char}, IsDigits ds → ∀ c ∈ ds, isNumberPart c = true := fun hds c hc => by
    simp [isNumberPart, hds.2 c hc]
  cases h with
  | whole h => exact hdigits h
  | point h hf =>
    intro c hc
    rcases List.mem_append.mp hc with hc | hc
    · exact hdigits h c hc
    · rcases List.mem_cons.mp hc with rfl | hc
      · rfl
      · exact hdigits hf c hc

/-- A decimal begins with a digit. -/
theorem IsDecimal.head {cs : List Char} (h : IsDecimal cs) : ∃ c tail, cs = c :: tail ∧ c.isDigit = true := by
  have hdigits : ∀ {ds more : List Char}, IsDigits ds →
      ∃ c tail, ds ++ more = c :: tail ∧ c.isDigit = true := by
    rintro (_ | ⟨c, ds⟩) more ⟨hne, hall⟩
    · exact absurd rfl hne
    · exact ⟨c, ds ++ more, rfl, hall c List.mem_cons_self⟩
  cases h with
  | whole h => simpa using @hdigits _ [] h
  | point h => exact hdigits h

theorem takeWhile_of_breaks {p : Char → Bool} {cs rest : List Char} (hcs : ∀ c ∈ cs, p c = true)
    (hrest : ∀ c tail, rest = c :: tail → p c = false) :
    (cs ++ rest).takeWhile p = cs ∧ (cs ++ rest).dropWhile p = rest := by
  rw [List.takeWhile_append_of_pos hcs, List.dropWhile_append_of_pos hcs]
  cases rest with
  | nil => simp
  | cons c tail => simp [hrest c tail rfl]

theorem numberLiteral_numeral {cs rest : List Char} {x : Float} (h : IsNumeral cs)
    (hx : Number.float? (String.ofList cs) = some x) (hfinite : x.isFinite = true) (hrest : Breaks rest) :
    numberLiteral (cs ++ rest) = .ok (.literal (.float x), rest) := by
  have hbreak : ∀ c tail, rest = c :: tail → isNumberPart c = false := fun c tail hc => (hrest c tail hc).2
  rcases h with hdecimal | ⟨digits, rfl, hdecimal⟩
  · obtain ⟨htake, hdrop⟩ := takeWhile_of_breaks (isNumberPart_of_mem_decimal hdecimal) hbreak
    obtain ⟨c, tail, rfl, hc⟩ := hdecimal.head
    have hminus : c ≠ '-' := by rintro rfl; exact absurd hc (by decide)
    rw [List.cons_append] at htake hdrop ⊢
    simp [numberLiteral, hminus, htake, hdrop, hx, hfinite, -String.ofList_cons]
  · obtain ⟨htake, hdrop⟩ := takeWhile_of_breaks (isNumberPart_of_mem_decimal hdecimal) hbreak
    simp only [numberLiteral, List.cons_append, List.nil_append, htake, hdrop, hx, hfinite, ↓reduceIte]

theorem exists_unsigned? {cs : List Char} (h : IsDecimal cs) : ∃ x, Number.unsigned? cs = some x := by
  have hend : ∀ {ds : List Char}, IsDigits ds → ds.takeWhile Char.isDigit = ds ∧ ds.dropWhile Char.isDigit = [] :=
    fun {ds} hds => by simpa using @takeWhile_of_breaks Char.isDigit ds [] hds.2 fun _ _ hc => nomatch hc
  cases h with
  | whole h => simp [Number.unsigned?, hend h, h.1, Number.takeExponent?]
  | @point digits fraction h hf =>
    obtain ⟨htake, hdrop⟩ := @takeWhile_of_breaks Char.isDigit digits ('.' :: fraction) h.2 fun c tail hc => by
      cases hc
      decide
    simp [Number.unsigned?, htake, hdrop, hend hf, h.1, Number.takeExponent?]

/-- A numeral is the text of a float, so that only its size can keep it from being a literal. -/
theorem exists_float? {cs : List Char} (h : IsNumeral cs) : ∃ x, Number.float? (String.ofList cs) = some x := by
  have hsigned : ∀ {negative : Bool} {digits : List Char}, Number.takeSign cs = (negative, digits) →
      IsDecimal digits → ∃ x, Number.float? (String.ofList cs) = some x := by
    intro negative digits hsign hdigits
    obtain ⟨x, hx⟩ := exists_unsigned? hdigits
    rw [← Option.isSome_iff_exists]
    simp only [Number.float?, String.toList_ofList, hsign, hx, Option.isSome_map]
    split
    · rfl
    · split <;> rfl
  rcases h with h | ⟨digits, rfl, h⟩
  · obtain ⟨c, tail, rfl, hc⟩ := h.head
    have hother : ∀ d : Char, d.isDigit = false → c ≠ d := by
      rintro d hd rfl
      simp [hc] at hd
    have hsign : Number.takeSign (c :: tail) = (false, c :: tail) := by
      simp [Number.takeSign, hother '-' (by decide), hother '+' (by decide)]
    exact hsigned hsign h
  · exact hsigned rfl h

/-! ### Words -/

theorem not_isAlphabetic_of_isDigit {c : Char} (h : c.isDigit = true) : Text.isAlphabetic c = false := by
  simp only [Char.isDigit, Bool.and_eq_true, decide_eq_true_eq, UInt32.le_iff_toNat_le] at h
  have hc : 48 ≤ c.toNat ∧ c.toNat ≤ 57 := by simpa using h
  have hascii : c.toNat < 128 := by omega
  have halpha : c.isAlpha ≠ true := by
    rw [ne_eq, Text.isAlpha_iff]
    omega
  simpa [Text.isAlphabetic, hascii] using halpha

/-- What a word begins with is no blank and begins no other operand. -/
theorem isBlank_of_start {c : Char} (h : (Text.isAlphabetic c || c == '_') = true) : Text.isBlank c = false := by
  refine Bool.eq_false_iff.mpr fun hc => ?_
  have hpart := not_isNamePart_of_isBlank hc
  simp only [isNamePart, Text.isAlphanumeric, Bool.or_eq_false_iff] at hpart
  simp [hpart.1.1.1, hpart.1.2] at h

theorem IsWord.isNamePart {cs : List Char} (h : IsWord cs) : ∀ c ∈ cs, isNamePart c = true := by
  obtain ⟨c, rest, rfl, hc, hrest⟩ := h
  refine List.forall_mem_cons.mpr ⟨?_, hrest⟩
  simp only [Reader.isNamePart, Text.isAlphanumeric, Bool.or_eq_true] at hc ⊢
  rcases hc with hc | hc
  · exact .inl (.inl (.inl hc))
  · exact .inl (.inr hc)

theorem word_of_breaks {cs rest : List Char} (h : IsWord cs) (hrest : Breaks rest) :
    (cs ++ rest).takeWhile Reader.isNamePart = cs ∧ (cs ++ rest).dropWhile Reader.isNamePart = rest :=
  takeWhile_of_breaks h.isNamePart fun c tail hc => (hrest c tail hc).1

/-- Any letter case of a word of ASCII letters is a word. -/
theorem isWord_of_isAlpha {cs : List Char} (hne : cs ≠ []) (h : ∀ c ∈ cs, c.isAlpha = true) : IsWord cs := by
  obtain ⟨c, rest, rfl⟩ := List.exists_cons_of_ne_nil hne
  obtain ⟨hc, hrest⟩ := List.forall_mem_cons.mp h
  refine ⟨c, rest, rfl, by simp [Text.isAlphabetic_of_isAlpha hc], fun x hx => ?_⟩
  simp [Reader.isNamePart, Text.isAlphanumeric, Text.isAlphabetic_of_isAlpha (hrest x hx)]

theorem isAlpha_of_toUpper {c : Char} (h : c.toUpper.isAlpha = true) : c.isAlpha = true := by
  unfold Char.toUpper at h
  split at h
  · next hc =>
    exact Text.isAlpha_iff.mpr (.inr (by simpa [UInt32.le_iff_toNat_le] using hc))
  · exact h

theorem isAlpha_of_toLower {c : Char} (h : c.toLower.isAlpha = true) : c.isAlpha = true := by
  unfold Char.toLower at h
  split at h
  · next hc =>
    exact Text.isAlpha_iff.mpr (.inl (by simpa [UInt32.le_iff_toNat_le] using hc))
  · exact h

/-- A mapping of letters that gives a word of ASCII letters was given one. -/
theorem isWord_of_map {fold : Char → Char} (hfold : ∀ {c : Char}, (fold c).isAlpha = true → c.isAlpha = true)
    {cs folded : List Char} (h : cs.map fold = folded) (hne : folded ≠ [])
    (hall : (folded.all Char.isAlpha) = true) : IsWord cs := by
  subst h
  refine isWord_of_isAlpha (by simpa using hne) fun c hc => hfold ?_
  exact List.all_eq_true.mp hall _ (List.mem_map_of_mem hc)

theorem isWord_operation {operation : Operation} {cs : List Char}
    (h : cs.map Char.toUpper = operation.word.toList) : IsWord cs := by
  refine isWord_of_map isAlpha_of_toUpper h ?_ ?_ <;> cases operation <;> decide

theorem isWord_truth {b : Bool} {cs : List Char} (h : cs.map Char.toLower = truthWord b) : IsWord cs := by
  refine isWord_of_map isAlpha_of_toLower h ?_ ?_ <;> cases b <;> decide

theorem map_truthWord (b : Bool) : (truthWord b).map Char.toLower = truthWord b := by
  cases b <;> decide

theorem IsName.isWellFormedName {dialect : Dialect} {path : String} (h : IsName dialect path) :
    isWellFormedName path.toList = true := by
  have hdots : Text.contains path.toList ['.', '.'] = false :=
    Bool.eq_false_iff.mpr fun hc => h.dots (Text.contains_iff.mp hc)
  simp [Reader.isWellFormedName, h.last, hdots]

theorem IsName.keyword?_eq_none {dialect : Dialect} {path : String} (h : IsName dialect path) :
    keyword? dialect path = none := by
  have hkeyword := h.keyword
  cases dialect with
  | formula => simp_all [IsKeyword, keyword?]
  | expression => simp_all [IsKeyword, keyword?]

theorem keyword?_truth {dialect : Dialect} {b : Bool} :
    keyword? dialect (String.ofList (truthWord b)) = some (.bool b) := by
  cases dialect <;> cases b <;> rfl

theorem keyword?_truthAnyCase {b : Bool} {cs : List Char} (h : cs.map Char.toLower = truthWord b) :
    keyword? .formula (String.ofList cs) = some (.bool b) := by
  have hlower : Text.asciiLower (String.ofList cs) = String.ofList (truthWord b) := by
    simp [Text.asciiLower, h]
  simp only [keyword?, hlower]
  cases b <;> rfl

/-! ### The ends of spellings -/

theorem not_isBlank_of_part {part : Char → Bool} (hpart : ∀ {c : Char}, Text.isBlank c = true → part c = false)
    {c : Char} (h : part c = true) : Text.isBlank c = false :=
  Bool.eq_false_iff.mpr fun hc => by simp [hpart hc] at h

theorem IsWord.solid {cs : List Char} (h : IsWord cs) : cs ≠ [] ∧ ∀ c ∈ cs, Text.isBlank c = false := by
  refine ⟨?_, fun c hc => not_isBlank_of_part not_isNamePart_of_isBlank (h.isNamePart c hc)⟩
  obtain ⟨c, rest, rfl, -⟩ := h
  exact List.cons_ne_nil c rest

theorem IsNumeral.solid {cs : List Char} (h : IsNumeral cs) : cs ≠ [] ∧ ∀ c ∈ cs, Text.isBlank c = false := by
  have hdecimal : ∀ {ds : List Char}, IsDecimal ds → ∀ c ∈ ds, Text.isBlank c = false := fun hds c hc =>
    not_isBlank_of_part not_isNumberPart_of_isBlank (isNumberPart_of_mem_decimal hds c hc)
  rcases h with h | ⟨digits, rfl, h⟩
  · obtain ⟨c, tail, rfl, -⟩ := h.head
    exact ⟨List.cons_ne_nil c tail, hdecimal h⟩
  · exact ⟨List.cons_ne_nil _ _, List.forall_mem_cons.mpr ⟨by decide, hdecimal h⟩⟩

theorem Mark.solid (m : Mark) (dialect : Dialect) :
    m.sign dialect ≠ [] ∧ ∀ c ∈ m.sign dialect, Text.isBlank c = false := by
  have hsign : (m.sign dialect != [] && (m.sign dialect).all fun c => !Text.isBlank c) = true := by
    cases m with
    | comparison op => cases dialect <;> cases op <;> decide
    | _ => cases dialect <;> decide
  simpa using hsign

/-- Blanks stand in no spelling but inside a text. -/
theorem Spelling.solid_or_quoted {dialect : Dialect} {token : Token} {cs : List Char} (h : Spelling dialect token cs) :
    (cs ≠ [] ∧ ∀ c ∈ cs, Text.isBlank c = false) ∨
      ∃ quote body, Text.isBlank quote = false ∧ cs = quote :: (body ++ [quote]) := by
  cases h with
  | mark m => exact .inl (m.solid dialect)
  | call _ _ h => exact .inl (isWord_operation h).solid
  | name h => exact .inl h.solid
  | truth b => exact .inl (isWord_truth (map_truthWord b)).solid
  | truthAnyCase _ _ h => exact .inl (isWord_truth h).solid
  | text hquote s =>
    refine .inr ⟨_, _, ?_, rfl⟩
    rcases hquote with rfl | rfl <;> decide
  | number h => exact .inl h.solid

/-- A spelling begins with a character that is no blank. -/
theorem Spelling.exists_first {dialect : Dialect} {token : Token} {cs : List Char} (h : Spelling dialect token cs) :
    ∃ c tail, cs = c :: tail ∧ Text.isBlank c = false := by
  rcases h.solid_or_quoted with ⟨hne, hall⟩ | ⟨quote, body, hquote, rfl⟩
  · obtain ⟨c, tail, rfl⟩ := List.exists_cons_of_ne_nil hne
    exact ⟨c, tail, rfl, hall c List.mem_cons_self⟩
  · exact ⟨quote, _, rfl, hquote⟩

/-- And it ends with one. -/
theorem Spelling.exists_last {dialect : Dialect} {token : Token} {cs : List Char} (h : Spelling dialect token cs) :
    ∃ front c, cs = front ++ [c] ∧ Text.isBlank c = false := by
  rcases h.solid_or_quoted with ⟨hne, hall⟩ | ⟨quote, body, hquote, rfl⟩
  · refine ⟨cs.dropLast, cs.getLast hne, (List.dropLast_concat_getLast hne).symm, ?_⟩
    exact hall _ (List.getLast_mem hne)
  · exact ⟨quote :: body, quote, rfl, hquote⟩

/-! ### Operands without parentheses -/

variable {dialect : Dialect} {n : Nat} {cs rest : List Char}

theorem operand_congr {cs' : List Char} (h : skip cs = skip cs') :
    operand dialect (n + 1) cs = operand dialect (n + 1) cs' := by
  simp only [operand, h]

/-- A letter or underscore sends an operand to the reader of words. -/
theorem operand_word (h : IsWord cs) : operand dialect (n + 1) (cs ++ rest) =
    word dialect (Reader.formula dialect (operand dialect n)) (cs ++ rest) := by
  obtain ⟨c, tail, rfl, hc, -⟩ := h
  have hblank : Text.isBlank c = false := isBlank_of_start hc
  have hother : ∀ d : Char, (Text.isAlphabetic d || d == '_') = false → c ≠ d := by
    rintro d hd rfl
    simp [hc] at hd
  have hquote : ¬(c = '"' ∨ c = '\'') :=
    not_or.mpr ⟨hother '"' (by decide), hother '\'' (by decide)⟩
  have hdigit : c.isDigit = false := by
    refine Bool.eq_false_iff.mpr fun hd => ?_
    have hlow : c ≠ '_' := by rintro rfl; exact absurd hd (by decide)
    simp [not_isAlphabetic_of_isDigit hd, hlow] at hc
  have hnumber : (c.isDigit || c == '-' || c == '.') = false := by
    simp [hdigit, hother '-' (by decide), hother '.' (by decide)]
  simp [operand, skip_cons hblank, hother '(' (by decide), hquote, hnumber, hc]

theorem operand_quote {quote : Char} (h : quote = '"' ∨ quote = '\'') :
    operand dialect (n + 1) (quote :: cs) = textLiteral quote cs := by
  rcases h with rfl | rfl <;> rfl

theorem operand_numeral (h : IsNumeral cs) : operand dialect (n + 1) (cs ++ rest) = numberLiteral (cs ++ rest) := by
  have hstart : ∀ {c : Char} {tail : List Char}, (c.isDigit || c == '-' || c == '.') = true →
      operand dialect (n + 1) (c :: tail) = numberLiteral (c :: tail) := by
    intro c tail hc
    have hother : ∀ d : Char, (d.isDigit || d == '-' || d == '.') = false → c ≠ d := by
      rintro d hd rfl
      simp [hc] at hd
    have hblank : Text.isBlank c = false := by
      refine Bool.eq_false_iff.mpr fun hb => ?_
      have hpart := not_isNumberPart_of_isBlank hb
      simp only [isNumberPart, Bool.or_eq_false_iff] at hpart
      have hminus : c = '-' := by simpa [hpart.1, hpart.2] using hc
      exact absurd (hminus ▸ hb) (by decide)
    simp [operand, skip_cons hblank, hother '(' (by decide), hother '"' (by decide), hother '\'' (by decide), hc]
  rcases h with hdecimal | ⟨digits, rfl, -⟩
  · obtain ⟨c, tail, rfl, hc⟩ := hdecimal.head
    exact hstart (by simp [hc])
  · exact hstart (by decide)

/-- A word in front of anything but a parenthesis is a keyword or a name. -/
theorem word_plain {argument : List Char → Step Formula} (h : IsWord cs) (hrest : Follows (followers 4) rest) :
    word dialect argument (cs ++ rest) =
      match keyword? dialect (String.ofList cs) with
      | some v => .ok (.literal v, skip rest)
      | none =>
        if isWellFormedName cs then .ok (.name (String.ofList cs), skip rest)
        else .error ⟨skip rest, .invalidName (String.ofList cs)⟩ := by
  obtain ⟨htake, hdrop⟩ := word_of_breaks h (breaks_of_follows hrest)
  unfold word
  simp only [htake, hdrop]
  cases hskip : skip rest with
  | nil => rfl
  | cons c tail =>
    have hc : c ≠ '(' := by
      rintro rfl
      exact absurd (hrest _ _ hskip) (by decide)
    cases keyword? dialect (String.ofList cs) <;> simp [hc]

theorem reads_keyword {v : Value} (h : IsWord cs) (hkeyword : keyword? dialect (String.ofList cs) = some v)
    (hrest : Follows (followers 4) rest) : Reads (operand dialect (n + 1)) (.literal v) (cs ++ rest) rest := by
  refine ⟨skip rest, ?_, skip_skip rest⟩
  rw [operand_word h, word_plain h hrest, hkeyword]

/-- A literal is read back, whatever its spelling. -/
theorem reads_literal {v : Value} (h : Spelling dialect (.literal v) cs) (hrest : Follows (followers 4) rest) :
    Reads (operand dialect (n + 1)) (.literal v) (cs ++ rest) rest := by
  cases h with
  | truth b => exact reads_keyword (isWord_truth (map_truthWord b)) keyword?_truth hrest
  | truthAnyCase _ hd h =>
    subst hd
    exact reads_keyword (isWord_truth h) (keyword?_truthAnyCase h) hrest
  | @text quote hquote s =>
    refine ⟨rest, ?_, rfl⟩
    have hslash : quote ≠ '\\' := by rcases hquote with rfl | rfl <;> decide
    simp only [quoted, List.cons_append, List.append_assoc, List.nil_append]
    rw [operand_quote hquote, textLiteral, textBody_escaped hslash]
    simp
  | number h hx hfinite =>
    refine ⟨rest, ?_, rfl⟩
    rw [operand_numeral h, numberLiteral_numeral h hx hfinite (breaks_of_follows hrest)]

theorem reads_name {path : String} (h : IsName dialect path) (hrest : Follows (followers 4) rest) :
    Reads (operand dialect (n + 1)) (.name path) (path.toList ++ rest) rest := by
  refine ⟨skip rest, ?_, skip_skip rest⟩
  rw [operand_word h.word, word_plain h.word hrest, String.ofList_toList, h.keyword?_eq_none]
  simp [h.isWellFormedName]

end Condition
end PromptForm
