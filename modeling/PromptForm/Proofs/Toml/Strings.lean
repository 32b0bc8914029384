import PromptForm.Toml.Quoted

/-! # Strings of configuration files, written and read back

Whatever style is chosen for a string, reading gives back its characters and leaves what follows
(`Toml.string?_quoted`). Styles with escapes hold every string: an escape stands for its character. Styles without
escapes are chosen only for strings without controls. On several lines the question is where the string ends, since
one or two quotes may stand before the closing three: no three stand in a row inside (`Toml.closing?_append`). -/

namespace PromptForm.Toml
variable {c q : Char} {s rest : List Char} {fuel : Nat}

/-! ### Escapes -/

theorem hexDigit?_hexDigit : ∀ d < 16, Value.Reader.hexDigit? (hexDigit d) = some d := by decide +kernel

/-- Four hexadecimal digits write every character of a byte. -/
theorem escape?_coded (hc : c.toNat < 256) (rest : List Char) :
    escape? ('u' :: '0' :: '0' :: hexDigit (c.toNat / 16) :: hexDigit (c.toNat % 16) :: rest) = some (c, rest) := by
  have hzero : Value.Reader.hexDigit? '0' = some 0 := by decide +kernel
  have hhigh := hexDigit?_hexDigit (c.toNat / 16) (by omega)
  have hlow := hexDigit?_hexDigit (c.toNat % 16) (by omega)
  have hvalue : 16 * (c.toNat / 16) + c.toNat % 16 = c.toNat := Nat.div_add_mod _ _
  have hvalid : c.toNat.isValidChar := c.valid
  simp [escape?, coded?, hex?, hzero, hhigh, hlow, hvalue, hvalid]

theorem toNat_lt_of_not_isPlain (h : isPlain c = false) : c.toNat < 256 := by
  simp [isPlain] at h
  omega

/-- A character stands for itself, or an escape stands for it. -/
theorem escaped_cases (c : Char) : escaped c = [c] ∧ isPlain c = true ∧ c ≠ '\\' ∨
    ∃ e es, escaped c = '\\' :: e :: es ∧ (e.isAlpha = true ∨ e = '\\') ∧
      ∀ rest, escape? (e :: (es ++ rest)) = some (c, rest) := by
  unfold escaped
  repeat' split
  · next h => exact .inr ⟨'b', [], rfl, by decide, fun rest => by rw [h]; rfl⟩
  · next h => exact .inr ⟨'t', [], rfl, by decide, fun rest => by rw [h]; rfl⟩
  · next h => exact .inr ⟨'n', [], rfl, by decide, fun rest => by rw [h]; rfl⟩
  · next h => exact .inr ⟨'f', [], rfl, by decide, fun rest => by rw [h]; rfl⟩
  · next h => exact .inr ⟨'r', [], rfl, by decide, fun rest => by rw [h]; rfl⟩
  · next h => exact .inr ⟨'\\', [], rfl, by decide, fun rest => by rw [h]; rfl⟩
  · next hbackslash hplain => exact .inl ⟨rfl, hplain, hbackslash⟩
  · next hplain =>
    exact .inr ⟨'u', _, rfl, by decide, escape?_coded (toNat_lt_of_not_isPlain (Bool.eq_false_iff.mpr hplain))⟩

/-! ### One line -/

theorem basic?_escapedAll (row : Nat) (s rest : List Char) (hfuel : s.length < fuel) :
    basic? fuel (escapedAll false 0 row s ++ '"' :: rest) = some (s, rest) := by
  induction s generalizing fuel row with
  | nil =>
    obtain ⟨fuel, rfl⟩ := Nat.exists_eq_add_of_le' hfuel
    simp [escapedAll, basic?]
  | cons c cs ih =>
    obtain ⟨fuel, rfl⟩ := Nat.exists_eq_add_of_le' (Nat.zero_lt_of_lt hfuel)
    have hrest := ih 0 (Nat.lt_of_succ_lt_succ hfuel)
    rw [escapedAll]
    split
    · next hc =>
      subst hc
      simp [basic?, escape?, before, hrest]
    · next hc =>
      rcases escaped_cases c with ⟨heq, hplain, hbackslash⟩ | ⟨e, es, heq, -, hescape⟩
      · simp [heq, basic?, hc, hbackslash, hplain, before, hrest]
      · simp [heq, basic?, hescape, before, hrest]

theorem literal?_append (hs : ∀ c ∈ s, isPlain c = true ∧ c ≠ '\'') (rest : List Char) :
    literal? (s ++ '\'' :: rest) = some (s, rest) := by
  induction s with
  | nil => simp [literal?]
  | cons c cs ih =>
    obtain ⟨⟨hplain, hc⟩, hcs⟩ := List.forall_mem_cons.mp hs
    simp [literal?, hc, hplain, before, ih hcs]

/-! ### Several lines -/

theorem closing?_of_ne {a : Char} (ha : a ≠ q) (as : List Char) : closing? q (a :: as) = none := by
  unfold closing?
  split
  · next heq =>
    cases heq
    simp [ha]
  · rfl

/-- Where no three quotes begin the inside of a string, its end is found where there are only quotes left of it. -/
theorem closing?_append {t : List Char} (hrow : ¬[q, q, q] <+: t) (hrest : rest.head? ≠ some q) :
    closing? q (t ++ q :: q :: q :: rest) = if t.all (· == q) then some (t, rest) else none := by
  rcases t with _ | ⟨a, _ | ⟨b, _ | ⟨c, t⟩⟩⟩
  · rcases rest with _ | ⟨d, _ | ⟨e, rest⟩⟩ <;> simp_all [closing?]
  · by_cases ha : a = q
    · rcases rest with _ | ⟨d, rest⟩ <;> simp_all [closing?]
    · simp [closing?_of_ne ha, ha]
  · by_cases ha : a = q
    · by_cases hb : b = q <;> simp_all [closing?]
    · simp [closing?_of_ne ha, ha]
  · have hne : ¬(a = q ∧ b = q ∧ c = q) := fun ⟨ha, hb, hc⟩ => hrow (by simp [ha, hb, hc])
    have hall : (a :: b :: c :: t).all (· == q) = false := by
      rw [Bool.eq_false_iff]
      intro hall
      simp only [List.all_cons, Bool.and_eq_true, beq_iff_eq] at hall
      exact hne ⟨hall.1, hall.2.1, hall.2.2.1⟩
    simp only [List.cons_append, closing?, if_neg hne, hall]
    rfl

theorem multiLiteral?_append (hs : ∀ c ∈ s, isPlain c = true ∨ c = '\n')
    (hrow : ∀ t, t <:+ s → ¬['\'', '\'', '\''] <+: t) (hrest : rest.head? ≠ some '\'') :
    multiLiteral? (s ++ '\'' :: '\'' :: '\'' :: rest) = some (s, rest) := by
  induction s with
  | nil =>
    have hclosing := closing?_append (hrow [] List.nil_suffix) hrest
    rw [List.nil_append] at hclosing ⊢
    rw [multiLiteral?, hclosing]
    rfl
  | cons c cs ih =>
    obtain ⟨hc, hcs⟩ := List.forall_mem_cons.mp hs
    have hclosing := closing?_append (hrow (c :: cs) (List.suffix_refl _)) hrest
    rw [List.cons_append] at hclosing ⊢
    rw [multiLiteral?, hclosing]
    split
    · next heq =>
      split at heq
      · exact heq.symm
      · cases heq
    · have hplain : (decide (c = '\n') || isPlain c) = true := by
        rcases hc with hc | hc <;> simp [hc]
      rw [if_pos hplain, ih hcs fun t ht => hrow t (ht.trans (List.suffix_cons c cs))]
      rfl

/-- Of quotes that stand for themselves only so many stand in a row. -/
theorem replicate_escapedAll {room row n : Nat} (h : List.replicate n '"' <+: escapedAll true room row s) :
    n = 0 ∨ row + n ≤ room := by
  induction s generalizing row n with
  | nil =>
    rw [escapedAll, List.prefix_nil] at h
    exact .inl (by simpa using h)
  | cons c cs ih =>
    cases n with
    | zero => exact .inl rfl
    | succ n =>
      rw [escapedAll, List.replicate_succ] at h
      split at h
      · split at h
        · obtain ⟨-, h⟩ := List.cons_prefix_cons.mp h
          rcases ih h with rfl | h <;> omega
        · exact absurd (List.cons_prefix_cons.mp h).1 (by decide)
      · next hc =>
        split at h
        · exact absurd (List.cons_prefix_cons.mp h).1 (Ne.symm hc)
        · rcases escaped_cases c with ⟨heq, -, -⟩ | ⟨e, es, heq, -⟩ <;> rw [heq] at h
          · exact absurd (List.cons_prefix_cons.mp h).1 (Ne.symm hc)
          · exact absurd (List.cons_prefix_cons.mp h).1 (by decide)

/-- Quotes alone stand for themselves. -/
theorem escapedAll_of_quotes {room row : Nat} (h : (escapedAll true room row s).all (· == '"') = true) :
    escapedAll true room row s = s := by
  induction s generalizing row with
  | nil => rfl
  | cons c cs ih =>
    rw [escapedAll] at h ⊢
    split at h
    · split at h
      · next hc hroom =>
        rw [List.all_cons, Bool.and_eq_true] at h
        rw [if_pos hc, if_pos hroom, ih h.2]
      · simp at h
    · next hc =>
      split at h
      · simp [hc] at h
      · rcases escaped_cases c with ⟨heq, -, -⟩ | ⟨e, es, heq, -⟩ <;> simp [heq, hc] at h

theorem lineBreak?_skipBlanks {e : Char} (he : e.isAlpha = true ∨ e = '\\' ∨ e = '"') (cs : List Char) :
    lineBreak? (skipBlanks (e :: cs)) = none := by
  have hne : isBlank e = false ∧ e ≠ '\n' ∧ e ≠ '\r' := by
    rcases he with he | rfl | rfl
    · refine ⟨Bool.eq_false_iff.mpr fun h => ?_, fun h => ?_, fun h => ?_⟩
      · rw [isBlank, Bool.or_eq_true, beq_iff_eq, beq_iff_eq] at h
        rcases h with rfl | rfl <;> revert he <;> decide
      · subst h
        revert he
        decide
      · subst h
        revert he
        decide
    · decide
    · decide
  rw [skipBlanks, List.dropWhile_cons_of_neg (by simp [hne.1])]
  unfold lineBreak?
  split
  · next heq => exact absurd (List.cons_eq_cons.mp heq).1 hne.2.1
  · next heq => exact absurd (List.cons_eq_cons.mp heq).1 hne.2.2
  · rfl

theorem multiBasic?_closed {cs : List Char} {closed : List Char × List Char} (h : closing? '"' cs = some closed) :
    multiBasic? (fuel + 1) cs = some closed := by
  cases cs with
  | nil => cases h
  | cons c cs => rw [multiBasic?, h]

theorem multiBasic?_plain {cs : List Char} (hclosing : closing? '"' (c :: cs) = none) (hc : c ≠ '\\')
    (hplain : isPlain c = true ∨ c = '\n') : multiBasic? (fuel + 1) (c :: cs) = before c (multiBasic? fuel cs) := by
  have hplain : (decide (c = '\n') || isPlain c) = true := by
    rcases hplain with h | h <;> simp [h]
  rw [multiBasic?, hclosing]
  simp only [if_neg hc, if_pos hplain]

theorem multiBasic?_escape {e : Char} {es : List Char} (he : e.isAlpha = true ∨ e = '\\' ∨ e = '"')
    (hescape : ∀ rest, escape? (e :: (es ++ rest)) = some (c, rest)) (cs : List Char) :
    multiBasic? (fuel + 1) ('\\' :: e :: (es ++ cs)) = before c (multiBasic? fuel cs) := by
  rw [multiBasic?, closing?_of_ne (by decide)]
  simp only [if_pos, lineBreak?_skipBlanks he, hescape, Option.bind_some]

theorem multiBasic?_escapedAll (row : Nat) (s : List Char) (hfuel : s.length < fuel) (hrest : rest.head? ≠ some '"') :
    multiBasic? fuel (escapedAll true 2 row s ++ '"' :: '"' :: '"' :: rest) = some (s, rest) := by
  induction s generalizing fuel row with
  | nil =>
    obtain ⟨fuel, rfl⟩ := Nat.exists_eq_add_of_le' hfuel
    exact multiBasic?_closed (closing?_append (t := []) (by simp) hrest)
  | cons c cs ih =>
    obtain ⟨fuel, rfl⟩ := Nat.exists_eq_add_of_le' (Nat.zero_lt_of_lt hfuel)
    have hmore (row : Nat) := ih row (Nat.lt_of_succ_lt_succ hfuel)
    -- Three quotes in a row are never written, so the row that closes is not in what was written.
    have hrow : ¬['"', '"', '"'] <+: escapedAll true 2 row (c :: cs) := fun h => by
      rcases replicate_escapedAll (n := 3) h with h | h <;> omega
    have hclosing := closing?_append hrow hrest
    -- If only quotes are left they belong to the row that closes, which is then longer than three.
    by_cases hall : (escapedAll true 2 row (c :: cs)).all (· == '"') = true
    · rw [if_pos hall, escapedAll_of_quotes hall] at hclosing
      rw [escapedAll_of_quotes hall]
      exact multiBasic?_closed hclosing
    · rw [if_neg hall] at hclosing
      rw [escapedAll] at hclosing ⊢
      split
      · next hc =>
        subst hc
        split
        · next hroom =>
          rw [if_pos rfl, if_pos hroom, List.cons_append] at hclosing
          rw [List.cons_append, multiBasic?_plain hclosing (by decide) (by decide), hmore]
          rfl
        · next hroom =>
          have hquote : ∀ rest, escape? ('"' :: ([] ++ rest)) = some ('"', rest) := fun _ => rfl
          refine (multiBasic?_escape (.inr (.inr rfl)) hquote (escapedAll true 2 0 cs ++ _)).trans ?_
          rw [hmore]
          rfl
      · next hc =>
        split
        · next hline =>
          have hline : c = '\n' := by simpa using hline
          subst hline
          rw [List.cons_append, multiBasic?_plain (closing?_of_ne (by decide) _) (by decide) (by decide), hmore]
          rfl
        · rcases escaped_cases c with ⟨heq, hplain, hbackslash⟩ | ⟨e, es, heq, he, hescape⟩
          · rw [heq, List.singleton_append, List.cons_append,
              multiBasic?_plain (closing?_of_ne hc _) hbackslash (.inl hplain), hmore]
            rfl
          · rw [heq, List.cons_append, List.cons_append, List.cons_append, List.cons_append, List.append_assoc,
              multiBasic?_escape (he.imp_right .inl) hescape, hmore]
            rfl

/-! ### Styles -/

theorem le_longestRow_self (row longest : Nat) : ∀ s : List Char, max row longest ≤ longestRow c row longest s
  | [] => Nat.le_refl _
  | d :: ds => by
    unfold longestRow
    split
    · exact Nat.le_trans (by omega) (le_longestRow_self (row + 1) longest ds)
    · exact Nat.le_trans (by omega) (le_longestRow_self 0 (max row longest) ds)

theorem add_le_longestRow (n row longest : Nat) (s : List Char) :
    row + n ≤ longestRow c row longest (List.replicate n c ++ s) := by
  induction n generalizing row with
  | zero => exact Nat.le_trans (Nat.le_max_left row longest) (le_longestRow_self row longest s)
  | succ n ih =>
    rw [List.replicate_succ, List.cons_append, longestRow, if_pos rfl, Nat.add_comm n, ← Nat.add_assoc]
    exact ih (row + 1)

/-- No row is longer than the longest. -/
theorem le_longestRow {n row longest : Nat} (h : List.replicate n c <:+: s) : n ≤ longestRow c row longest s := by
  obtain ⟨before, after, rfl⟩ := h
  induction before generalizing row longest with
  | nil => exact Nat.le_trans (Nat.le_add_left n row) (by simpa using add_le_longestRow n row longest after)
  | cons d ds ih =>
    rw [List.cons_append, List.cons_append, longestRow]
    split <;> exact ih

theorem not_mem_of_longestRow (h : longestRow c 0 0 s = 0) : c ∉ s := fun hc => by
  obtain ⟨before, after, rfl⟩ := List.append_of_mem hc
  have hle : 1 ≤ longestRow c 0 0 (before ++ c :: after) := le_longestRow ⟨before, after, by simp⟩
  omega

theorem not_row_of_longestRow (h : longestRow c 0 0 s ≤ 2) {t : List Char} (ht : t <:+ s) : ¬[c, c, c] <+: t := fun hrow => by
  have hle : 3 ≤ longestRow c 0 0 s := le_longestRow (hrow.isInfix.trans ht.isInfix)
  omega

theorem string?_line {cs : List Char} (hquotes : ¬['"', '"', '"'] <+: cs)
    (happostrophes : ¬['\'', '\'', '\''] <+: cs) : string? cs = lineString? cs := by
  unfold string?
  split
  · exact absurd (by simp) hquotes
  · exact absurd (by simp) happostrophes
  · rfl

/-- Between double quotes a string does not begin with what begins it raw, unless that is plain. -/
theorem escapedAll_cons (multi : Bool) (room row : Nat) (c : Char) (s : List Char) : ∃ d ds,
    escapedAll multi room row (c :: s) = d :: ds ∧ (d = '\\' ∨ d = c ∧ (c = '"' → row < room) ∧ (isPlain c = true ∨ c = '\n')) := by
  rw [escapedAll]
  split
  · next hc =>
    split
    · next hroom => exact ⟨_, _, rfl, .inr ⟨rfl, fun _ => hroom, .inl (hc ▸ by decide)⟩⟩
    · exact ⟨_, _, rfl, .inl rfl⟩
  · next hc =>
    split
    · next hline => exact ⟨_, _, rfl, .inr ⟨rfl, fun h => absurd h hc, .inr (by simpa using (Bool.and_eq_true_iff.mp hline).2)⟩⟩
    · rcases escaped_cases c with ⟨heq, hplain, -⟩ | ⟨e, es, heq, -⟩
      · exact ⟨c, _, by rw [heq]; rfl, .inr ⟨rfl, fun h => absurd h hc, .inl hplain⟩⟩
      · exact ⟨_, _, by rw [heq]; rfl, .inl rfl⟩

theorem length_le_escapedAll (multi : Bool) (room row : Nat) (s : List Char) :
    s.length ≤ (escapedAll multi room row s).length := by
  induction s generalizing row with
  | nil => exact Nat.zero_le _
  | cons c s ih =>
    rw [escapedAll]
    split
    · split
      · exact Nat.succ_le_succ (ih _)
      · exact Nat.succ_le_succ (Nat.le_succ_of_le (ih _))
    · split
      · exact Nat.succ_le_succ (ih _)
      · have hmore := ih 0
        rcases escaped_cases c with ⟨heq, -⟩ | ⟨e, es, heq, -⟩ <;> simp only [heq, List.length_append, List.length_cons] <;>
          omega

theorem string?_basic (s : List Char) (hrest : rest.head? ≠ some '"') :
    string? (Style.basic.write s ++ rest) = some (s, rest) := by
  have htext : Style.basic.write s ++ rest = '"' :: (escapedAll false 0 0 s ++ '"' :: rest) := by simp [Style.write]
  rw [htext, string?_line, lineString?]
  · refine basic?_escapedAll 0 s rest ?_
    have hlength := length_le_escapedAll false 0 0 s
    rw [List.length_append]
    omega
  · rintro hquotes
    have htail := (List.cons_prefix_cons.mp hquotes).2
    cases s with
    | nil =>
      obtain ⟨t, ht⟩ := (List.cons_prefix_cons.mp htail).2
      exact hrest (by rw [← ht]; rfl)
    | cons c s =>
      obtain ⟨d, ds, heq, hd⟩ := escapedAll_cons false 0 0 c s
      rw [heq] at htail
      have hquote := (List.cons_prefix_cons.mp htail).1
      rcases hd with rfl | ⟨rfl, hc, -⟩
      · exact absurd hquote (by decide)
      · exact absurd (hc hquote.symm) (Nat.lt_irrefl 0)
  · exact fun h => absurd (List.cons_prefix_cons.mp h).1 (by decide)

theorem string?_literal (hs : ∀ c ∈ s, isPlain c = true ∧ c ≠ '\'') (hrest : rest.head? ≠ some '\'') :
    string? (Style.literal.write s ++ rest) = some (s, rest) := by
  have htext : Style.literal.write s ++ rest = '\'' :: (s ++ '\'' :: rest) := by simp [Style.write]
  rw [htext, string?_line, lineString?]
  · exact literal?_append hs rest
  · exact fun h => absurd (List.cons_prefix_cons.mp h).1 (by decide)
  · intro happostrophes
    have htail := (List.cons_prefix_cons.mp happostrophes).2
    cases s with
    | nil =>
      obtain ⟨t, ht⟩ := (List.cons_prefix_cons.mp htail).2
      exact hrest (by rw [← ht]; rfl)
    | cons c s => exact (hs c List.mem_cons_self).2 (List.cons_prefix_cons.mp htail).1.symm

/-- The line break that begins a string on several lines is dropped, and no other one is. -/
theorem dropBreak_start {t : List Char} (ht : '\n' ∉ s → lineBreak? t = none) :
    dropBreak ((if s.contains '\n' then ['\n'] else []) ++ t) = t := by
  split
  · rfl
  · next hline =>
    rw [List.nil_append, dropBreak, ht (by simpa using hline)]
    rfl

theorem lineBreak?_of_ne {t : List Char} (hn : c ≠ '\n') (hr : c ≠ '\r') : lineBreak? (c :: t) = none := by
  unfold lineBreak?
  split
  · next heq => exact absurd (List.cons_eq_cons.mp heq).1 hn
  · next heq => exact absurd (List.cons_eq_cons.mp heq).1 hr
  · rfl

theorem ne_return_of_plain (h : isPlain c = true ∨ c = '\n') : c ≠ '\r' := by
  rintro rfl
  revert h
  decide

theorem string?_multiBasic (s : List Char) (hrest : rest.head? ≠ some '"') :
    string? (Style.multiBasic.write s ++ rest) = some (s, rest) := by
  have htext : Style.multiBasic.write s ++ rest = '"' :: '"' :: '"' ::
      ((if s.contains '\n' then ['\n'] else []) ++ (escapedAll true 2 0 s ++ '"' :: '"' :: '"' :: rest)) := by
    simp [Style.write]
  rw [htext, string?, dropBreak_start]
  · refine multiBasic?_escapedAll 0 s ?_ hrest
    have hlength := length_le_escapedAll true 2 0 s
    simp only [List.length_append]
    omega
  · intro hline
    cases s with
    | nil => rfl
    | cons c s =>
      obtain ⟨d, ds, heq, hd⟩ := escapedAll_cons true 2 0 c s
      rw [heq, List.cons_append]
      rcases hd with rfl | ⟨rfl, -, hplain⟩
      · exact lineBreak?_of_ne (by decide) (by decide)
      · exact lineBreak?_of_ne (fun h => hline (h ▸ List.mem_cons_self)) (ne_return_of_plain hplain)

theorem string?_multiLiteral (hs : ∀ c ∈ s, isPlain c = true ∨ c = '\n')
    (hrow : ∀ t, t <:+ s → ¬['\'', '\'', '\''] <+: t) (hrest : rest.head? ≠ some '\'') :
    string? (Style.multiLiteral.write s ++ rest) = some (s, rest) := by
  have htext : Style.multiLiteral.write s ++ rest = '\'' :: '\'' :: '\'' ::
      ((if s.contains '\n' then ['\n'] else []) ++ (s ++ '\'' :: '\'' :: '\'' :: rest)) := by
    simp [Style.write]
  rw [htext, string?, dropBreak_start]
  · exact multiLiteral?_append hs hrow hrest
  · intro hline
    cases s with
    | nil => rfl
    | cons c s =>
      exact lineBreak?_of_ne (fun h => hline (h ▸ List.mem_cons_self)) (ne_return_of_plain (hs c List.mem_cons_self))

theorem plain_of_no_control (h : s.any isControl = false) : ∀ c ∈ s, isPlain c = true ∨ c = '\n' := fun c hc => by
  have hcontrol := List.any_eq_false.mp h c hc
  simp only [isControl, Bool.and_eq_true, Bool.not_eq_true', bne_iff_ne, not_and, Classical.not_not] at hcontrol
  cases hplain : isPlain c with
  | true => exact .inl rfl
  | false => exact .inr (hcontrol hplain)

/-- What is written for a string reads back as the string, and what follows is left. -/
theorem string?_quoted (s : List Char) (hquote : rest.head? ≠ some '"') (happostrophe : rest.head? ≠ some '\'') :
    string? (quoted s ++ rest) = some (s, rest) := by
  unfold quoted Style.of
  dsimp only
  split
  · exact string?_basic s hquote
  · split
    · next h =>
      simp only [Bool.and_eq_true, Bool.not_eq_true', beq_iff_eq] at h
      obtain ⟨⟨hcontrol, hrow⟩, hline⟩ := h
      refine string?_literal (fun c hc => ⟨(plain_of_no_control hcontrol c hc).resolve_right ?_, ?_⟩) happostrophe
      · rintro rfl
        simp [hc] at hline
      · rintro rfl
        exact not_mem_of_longestRow hrow hc
    · split
      · exact string?_multiBasic s hquote
      · split
        · next h =>
          simp only [Bool.and_eq_true, Bool.not_eq_true', decide_eq_true_eq] at h
          exact string?_multiLiteral (plain_of_no_control h.1) (fun t ht => not_row_of_longestRow h.2 ht) happostrophe
        · split
          · exact string?_multiBasic s hquote
          · exact string?_basic s hquote

end PromptForm.Toml
