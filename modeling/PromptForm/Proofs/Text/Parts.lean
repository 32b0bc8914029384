import PromptForm.Text.Blank

/-! # Parts of a text

A text that leads another one is a prefix of it, and a text that occurs in another one is an infix
(`Text.afterPrefix?_eq_some`, `Text.contains_iff`), so that the lemmas of the list library apply. What is taken or
dropped from the front of a text stays the same behind more text once a character stops it. A text in which nothing cuts is
its only piece. -/

namespace PromptForm.Text
variable {part cs rest : List Char} {p : Char → Bool} {d : Char}

theorem afterPrefix?_append : ∀ part rest : List Char, afterPrefix? part (part ++ rest) = some rest
  | [], _ => rfl
  | c :: part, rest => by simp [afterPrefix?, afterPrefix?_append part rest]

theorem eq_append_of_afterPrefix? : ∀ {part cs rest : List Char}, afterPrefix? part cs = some rest → cs = part ++ rest
  | [], _, _, h => Option.some.inj h
  | p :: part, c :: cs, rest, h => by
    unfold afterPrefix? at h
    split at h
    · rename_i hp
      rw [hp, eq_append_of_afterPrefix? h, List.cons_append]
    · cases h

theorem afterPrefix?_eq_some : afterPrefix? part cs = some rest ↔ cs = part ++ rest := by
  refine ⟨eq_append_of_afterPrefix?, ?_⟩
  rintro rfl
  exact afterPrefix?_append part rest

theorem isSome_afterPrefix? : (afterPrefix? part cs).isSome = true ↔ part <+: cs := by
  rw [Option.isSome_iff_exists]
  simp only [afterPrefix?_eq_some]
  exact ⟨fun ⟨rest, h⟩ => ⟨rest, h.symm⟩, fun ⟨rest, h⟩ => ⟨rest, h.symm⟩⟩

theorem contains_iff : ∀ {cs part : List Char}, contains cs part = true ↔ part <:+: cs
  | [], part => by simp [contains]
  | c :: cs, part => by
    rw [contains, Bool.or_eq_true, isSome_afterPrefix?, contains_iff, List.infix_cons_iff]

/-! ### Pieces -/

theorem splitBy_ne_nil (p : Char → Bool) (cs : List Char) : splitBy p cs ≠ [] := by
  cases cs with
  | nil => simp [splitBy]
  | cons c cs =>
    unfold splitBy
    split
    · simp
    · split <;> simp

theorem splitBy_of_none : ∀ {cs : List Char}, (∀ c ∈ cs, p c = false) → splitBy p cs = [cs]
  | [], _ => rfl
  | c :: cs, h => by
    obtain ⟨hc, hcs⟩ := List.forall_mem_cons.mp h
    simp [splitBy, hc, splitBy_of_none hcs]

/-! ### Fronts -/

theorem dropWhile_append_stop (hd : p d = false) (cs rest : List Char) :
    (cs ++ d :: rest).dropWhile p = cs.dropWhile p ++ d :: rest := by
  induction cs with
  | nil => simp [hd]
  | cons c cs ih => cases hc : p c <;> simp [hc, ih]

theorem takeWhile_append_stop (hd : p d = false) (cs rest : List Char) :
    (cs ++ d :: rest).takeWhile p = cs.takeWhile p := by
  induction cs with
  | nil => simp [hd]
  | cons c cs ih => cases hc : p c <;> simp [hc, ih]

theorem dropWhile_append_of_ne_nil (h : cs.dropWhile p ≠ []) (more : List Char) :
    (cs ++ more).dropWhile p = cs.dropWhile p ++ more := by
  simp [List.dropWhile_append, h]

theorem takeWhile_append_of_ne_nil (h : cs.dropWhile p ≠ []) (more : List Char) :
    (cs ++ more).takeWhile p = cs.takeWhile p := by
  rw [List.takeWhile_append, if_neg]
  intro hlength
  have htake : cs.takeWhile p = cs := (List.takeWhile_prefix p).eq_of_length hlength
  have hsplit := List.takeWhile_append_dropWhile (p := p) (l := cs)
  rw [htake, List.append_right_eq_self] at hsplit
  exact h hsplit

end PromptForm.Text
