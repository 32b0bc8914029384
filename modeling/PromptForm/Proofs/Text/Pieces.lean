import Mathlib.Data.List.DropRight
import PromptForm.Output.NormalForm

/-! # Pieces of a text

Cutting a text at a character and joining lines are the operations of the list library (`Text.splitBy_eq`,
`Output.joinLines_eq`), so that its lemmas apply: lines without newlines are what their text is cut into. Trimming takes a
part of the text and leaves no blank at its ends, and characters that are no blanks may be taken out before or after. -/

namespace PromptForm

namespace Text
variable {cs : List Char}

theorem splitBy_eq (p : Char → Bool) : ∀ cs, splitBy p cs = cs.splitOnP p
  | [] => List.splitOnP_nil.symm
  | c :: cs => by
    unfold splitBy
    rw [List.splitOnP_cons_eq_if_modifyHead, splitBy_eq p cs]
    obtain ⟨piece, pieces, hpieces⟩ := List.exists_cons_of_ne_nil (List.splitOnP_ne_nil p cs)
    rw [hpieces, List.modifyHead_cons]

theorem splitBy_append {p : Char → Bool} {c : Char} (hc : p c = true) (cs ds : List Char) :
    splitBy p (cs ++ c :: ds) = splitBy p cs ++ splitBy p ds := by
  simp only [splitBy_eq, List.splitOnP_append_cons cs ds hc]

theorem not_of_mem_splitBy {p : Char → Bool} : ∀ {cs piece : List Char}, piece ∈ splitBy p cs → ∀ c ∈ piece, p c = false
  | [], piece, h, c, hc => by
    rw [List.mem_singleton.mp h] at hc
    cases hc
  | d :: cs, piece, h, c, hc => by
    unfold splitBy at h
    split at h
    · rcases List.mem_cons.mp h with rfl | h
      · cases hc
      · exact not_of_mem_splitBy h c hc
    · rename_i hd
      split at h
      · rw [List.mem_singleton.mp h, List.mem_singleton] at hc
        rw [hc]
        exact Bool.eq_false_iff.mpr hd
      · rename_i first rest hsplit
        rcases List.mem_cons.mp h with rfl | h
        · rcases List.mem_cons.mp hc with rfl | hc
          · exact Bool.eq_false_iff.mpr hd
          · exact not_of_mem_splitBy (hsplit ▸ List.mem_cons_self) c hc
        · exact not_of_mem_splitBy (hsplit ▸ List.mem_cons_of_mem first h) c hc

/-! ### Ends -/

theorem trim_infix (cs : List Char) : trim cs <:+: cs :=
  (List.rdropWhile_prefix isBlank (trimStart cs)).isInfix.trans (List.dropWhile_suffix isBlank).isInfix

theorem trimStart_trim (cs : List Char) : trimStart (trim cs) = trim cs := by
  refine List.dropWhile_eq_self_iff.mpr fun hpos => ?_
  have hbegins : trim cs <+: trimStart cs := List.rdropWhile_prefix isBlank (trimStart cs)
  rw [hbegins.getElem hpos]
  exact List.dropWhile_get_zero_not isBlank cs (hpos.trans_le hbegins.length_le)

theorem trim_trim (cs : List Char) : trim (trim cs) = trim cs := by
  have hend : trimEnd (trim cs) = trim cs := List.rdropWhile_idempotent isBlank (trimStart cs)
  rw [trim, trimStart_trim, hend]

section Blanks
variable {b : Char}

theorem trim_cons_blank (hb : isBlank b = true) (cs : List Char) : trim (b :: cs) = trim cs := by
  simp [trim, trimStart, hb]

theorem trim_concat_blank (hb : isBlank b = true) (cs : List Char) : trim (cs ++ [b]) = trim cs := by
  have hend : ∀ cs, trimEnd (cs ++ [b]) = trimEnd cs := fun cs => List.rdropWhile_concat_pos isBlank cs b hb
  unfold trim trimStart
  rw [List.dropWhile_append]
  split
  · rename_i hnone
    rw [List.isEmpty_iff.mp hnone]
    simp [hb]
  · exact hend _

/-- A text is what trimming leaves, between blanks. -/
theorem exists_blanks (cs : List Char) : ∃ front back, cs = front ++ trim cs ++ back ∧
    (∀ b ∈ front, isBlank b = true) ∧ ∀ b ∈ back, isBlank b = true := by
  have hstart : cs = cs.takeWhile isBlank ++ trimStart cs := List.takeWhile_append_dropWhile.symm
  have hend : trimStart cs = trim cs ++ (trimStart cs).rtakeWhile isBlank := by
    rw [trim, trimEnd, List.rtakeWhile, ← List.reverse_append, List.takeWhile_append_dropWhile, List.reverse_reverse]
  refine ⟨cs.takeWhile isBlank, (trimStart cs).rtakeWhile isBlank, ?_, fun b => List.mem_takeWhile_imp,
    fun b => List.mem_rtakeWhile_imp⟩
  rw [List.append_assoc, ← hend]
  exact hstart

section Pieces
variable {p : Char → Bool}

/-- A character that does not cut goes to the last piece. -/
theorem exists_last_piece (p : Char → Bool) : ∀ cs, ∃ front last, splitBy p cs = front ++ [last] ∧
    ∀ c, p c = false → splitBy p (cs ++ [c]) = front ++ [last ++ [c]]
  | [] => ⟨[], [], rfl, fun c hc => by simp [splitBy, hc]⟩
  | d :: cs => by
    obtain ⟨front, last, hcs, hconcat⟩ := exists_last_piece p cs
    cases hd : p d with
    | true => exact ⟨[] :: front, last, by simp [splitBy, hd, hcs], fun c hc => by simp [splitBy, hd, hconcat c hc]⟩
    | false =>
      cases front with
      | nil => exact ⟨[], d :: last, by simp [splitBy, hd, hcs], fun c hc => by simp [splitBy, hd, hconcat c hc]⟩
      | cons first front =>
        exact ⟨(d :: first) :: front, last, by simp [splitBy, hd, hcs], fun c hc => by simp [splitBy, hd, hconcat c hc]⟩

variable (hp : ∀ c, isBlank c = true → p c = false)
include hp

theorem trim_splitBy_cons (hb : isBlank b = true) (cs : List Char) :
    (splitBy p (b :: cs)).map trim = (splitBy p cs).map trim := by
  obtain ⟨front, last, hcs, -⟩ := exists_last_piece p cs
  cases front with
  | nil => simp [splitBy, hp b hb, hcs, trim_cons_blank hb]
  | cons first front => simp [splitBy, hp b hb, hcs, trim_cons_blank hb]

theorem trim_splitBy_concat (hb : isBlank b = true) (cs : List Char) :
    (splitBy p (cs ++ [b])).map trim = (splitBy p cs).map trim := by
  obtain ⟨front, last, hcs, hconcat⟩ := exists_last_piece p cs
  simp [hcs, hconcat b (hp b hb), trim_concat_blank hb]

/-- Blanks at the ends of a text are at the ends of its pieces. -/
theorem trim_splitBy_trim (cs : List Char) : (splitBy p (trim cs)).map trim = (splitBy p cs).map trim := by
  have hfront : ∀ front cs : List Char, (∀ b ∈ front, isBlank b = true) →
      (splitBy p (front ++ cs)).map trim = (splitBy p cs).map trim := by
    intro front cs hfront
    induction front with
    | nil => rfl
    | cons b front ih =>
      obtain ⟨hb, hfront⟩ := List.forall_mem_cons.mp hfront
      rw [List.cons_append, trim_splitBy_cons hp hb, ih hfront]
  have hback : ∀ back cs : List Char, (∀ b ∈ back, isBlank b = true) →
      (splitBy p (cs ++ back)).map trim = (splitBy p cs).map trim := by
    intro back
    induction back with
    | nil => simp
    | cons b back ih =>
      intro cs hback
      obtain ⟨hb, hback⟩ := List.forall_mem_cons.mp hback
      rw [List.append_cons, ih _ hback, trim_splitBy_concat hp hb]
  obtain ⟨front, back, hcs, hblanks, hrest⟩ := exists_blanks cs
  conv_rhs => rw [hcs, hback back _ hrest, hfront front _ hblanks]

end Pieces

end Blanks

section Filter
variable {p : Char → Bool} (hp : ∀ c, p c = false → isBlank c = true)
include hp

theorem filter_trimStart (cs : List Char) : (trimStart cs).filter p = trimStart (cs.filter p) := by
  induction cs with
  | nil => rfl
  | cons c cs ih =>
    cases hc : p c with
    | false => simpa [trimStart, hp c hc, hc] using ih
    | true =>
      cases hblank : isBlank c with
      | true => simpa [trimStart, hblank, hc] using ih
      | false => simp [trimStart, hblank, hc]

theorem filter_trimEnd (cs : List Char) : (trimEnd cs).filter p = trimEnd (cs.filter p) := by
  have hreverse := filter_trimStart hp cs.reverse
  unfold trimStart at hreverse
  rw [trimEnd, List.filter_reverse, hreverse, List.filter_reverse, trimEnd]

/-- What is no blank may be taken out before trimming or after it. -/
theorem filter_trim (cs : List Char) : (trim cs).filter p = trim (cs.filter p) := by
  rw [trim, filter_trimEnd hp, filter_trimStart hp, trim]

end Filter
end Text

namespace Output
variable {lines : List (List Char)}

/-- The lines with a newline before each of them. -/
def begun (lines : List (List Char)) : List Char := lines.flatMap ('\n' :: ·)

@[simp] theorem begun_nil : begun [] = [] := rfl

@[simp] theorem begun_cons (line : List Char) (lines : List (List Char)) :
    begun (line :: lines) = '\n' :: (line ++ begun lines) := rfl

theorem begun_append (lines more : List (List Char)) : begun (lines ++ more) = begun lines ++ begun more :=
  List.flatMap_append

theorem begun_newline : ∀ lines, begun lines ++ ['\n'] = '\n' :: lines.flatMap (· ++ ['\n'])
  | [] => rfl
  | line :: lines => by
    rw [begun_cons, List.cons_append, List.append_assoc, begun_newline lines]
    simp

theorem joinLines_cons (first : List Char) : ∀ rest, joinLines (first :: rest) = first ++ begun rest
  | [] => (List.append_nil first).symm
  | line :: rest => by
    show first ++ '\n' :: joinLines (line :: rest) = first ++ begun (line :: rest)
    rw [joinLines_cons line rest, begun_cons]

theorem joinLines_eq : ∀ lines, joinLines lines = ['\n'].intercalate lines
  | [] => List.intercalate_nil.symm
  | [line] => List.intercalate_singleton.symm
  | line :: next :: rest => by
    rw [List.intercalate_cons_cons, ← joinLines_eq (next :: rest)]
    simp [joinLines]

theorem joinLines_splitBy (cs : List Char) : joinLines (Text.splitBy (· == '\n') cs) = cs := by
  rw [joinLines_eq, Text.splitBy_eq]
  exact List.intercalate_splitOn '\n'

theorem splitBy_line {line : List Char} (hline : '\n' ∉ line) (cs : List Char) :
    Text.splitBy (· == '\n') (line ++ '\n' :: cs) = line :: Text.splitBy (· == '\n') cs := by
  simp only [Text.splitBy_eq]
  exact List.splitOn_append_cons_self_of_not_mem hline cs

theorem newline_not_mem {line cs : List Char} (h : line ∈ Text.splitBy (· == '\n') cs) : '\n' ∉ line := fun hnewline =>
  absurd (Text.not_of_mem_splitBy h '\n' hnewline) (by decide)

theorem splitBy_joinLines (hlines : ∀ line ∈ lines, '\n' ∉ line) (hne : lines ≠ []) :
    Text.splitBy (· == '\n') (joinLines lines) = lines := by
  rw [joinLines_eq, Text.splitBy_eq]
  exact List.splitOn_intercalate '\n' hlines hne

end Output
end PromptForm
