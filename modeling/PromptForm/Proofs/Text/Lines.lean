import PromptForm.Proofs.Text.Parts
import PromptForm.Proofs.Text.Pieces

/-! # Lines of a text

A text whose lines all end with a newline is cut into these lines again, with an empty piece after them
(`Output.splitBy_ended`). A return before a newline belongs to the end of its line. So the lines of a text without blanks at
its ends are its pieces, each without one return (`Text.lines_trim`), and trimming a text of lines takes blanks from its first
line and the newline after its last one (`Text.IsBody.splitBy_trim`). -/

namespace PromptForm

namespace Output

/-- The lines with a newline after each of them. -/
def ended (lines : List (List Char)) : List Char := lines.flatMap (· ++ ['\n'])

theorem ended_cons (line : List Char) (lines : List (List Char)) : ended (line :: lines) = line ++ '\n' :: ended lines := by
  simp [ended]

theorem splitBy_ended : ∀ {lines : List (List Char)}, (∀ line ∈ lines, '\n' ∉ line) →
    Text.splitBy (· == '\n') (ended lines) = lines ++ [[]]
  | [], _ => rfl
  | line :: lines, h => by
    obtain ⟨hline, hlines⟩ := List.forall_mem_cons.mp h
    rw [ended_cons, splitBy_line hline, splitBy_ended hlines, List.cons_append]

theorem joinLines_newline (first : List Char) (rest : List (List Char)) :
    joinLines (first :: rest) ++ ['\n'] = ended (first :: rest) := by
  rw [joinLines_cons, List.append_assoc, begun_newline, ended_cons, ended]

theorem joinLines_concat (front : List (List Char)) (line cs : List Char) :
    joinLines (front ++ [line ++ cs]) = joinLines (front ++ [line]) ++ cs := by
  cases front with
  | nil => rfl
  | cons first front => simp [joinLines_cons, begun_append]

end Output

namespace Text
variable {cs ds line first : List Char} {rest : List (List Char)} {c : Char}

/-! ### Returns -/

theorem dropReturn_cases (cs : List Char) :
    cs.getLast? ≠ some '\r' ∧ dropReturn cs = cs ∨ cs = dropReturn cs ++ ['\r'] := by
  rcases List.eq_nil_or_concat cs with rfl | ⟨front, last, rfl⟩
  · exact .inl ⟨nofun, rfl⟩
  · by_cases hlast : last = '\r'
    · exact .inr (by simp [dropReturn, hlast])
    · exact .inl ⟨by simp [hlast], by simp [dropReturn, hlast]⟩

theorem dropReturn_of_getLast? (h : cs.getLast? ≠ some '\r') : dropReturn cs = cs := by
  rcases dropReturn_cases cs with ⟨-, hsame⟩ | hreturn
  · exact hsame
  · rw [hreturn] at h
    simp at h

theorem dropReturn_append (cs : List Char) (h : ds ≠ []) : dropReturn (cs ++ ds) = cs ++ dropReturn ds := by
  obtain ⟨front, last, rfl⟩ := (List.eq_nil_or_concat ds).resolve_left h
  by_cases hlast : last = '\r' <;> simp [dropReturn, hlast]

theorem mem_dropReturn (hc : isBlank c = false) (h : c ∈ cs) : c ∈ dropReturn cs := by
  rcases dropReturn_cases cs with ⟨-, hsame⟩ | hreturn
  · rwa [hsame]
  · rw [hreturn] at h
    refine (List.mem_append.mp h).resolve_right fun hlast => ?_
    rw [List.mem_singleton.mp hlast] at hc
    exact absurd hc (by decide)

theorem dropReturn_subset (cs : List Char) : dropReturn cs ⊆ cs := by
  rcases dropReturn_cases cs with ⟨-, hsame⟩ | hreturn
  · rw [hsame]
    exact List.Subset.refl cs
  · exact fun d hd => hreturn ▸ List.mem_append_left _ hd

/-- A line that ends with no blank has no return at its end. -/
theorem dropReturn_concat (hc : isBlank c = false) (cs : List Char) : dropReturn (cs ++ [c]) = cs ++ [c] := by
  refine dropReturn_of_getLast? fun hlast => ?_
  rw [List.getLast?_concat, Option.some.injEq] at hlast
  rw [hlast] at hc
  exact absurd hc (by decide)

theorem linesOf_concat (hline : line ≠ []) : ∀ front, linesOf (front ++ [line]) = front.map dropReturn ++ [line]
  | [] => by simp [linesOf, hline]
  | piece :: front => by
    obtain ⟨next, pieces, hpieces⟩ := List.exists_cons_of_ne_nil (List.append_ne_nil_of_right_ne_nil front (List.cons_ne_nil line []))
    have hrest := linesOf_concat hline front
    rw [hpieces] at hrest
    rw [List.cons_append, hpieces, linesOf, hrest, List.map_cons, List.cons_append]
    exact List.cons_ne_nil next pieces

/-! ### Trimmed texts -/

theorem trim_eq_nil_iff (cs : List Char) : trim cs = [] ↔ cs.all isBlank = true := by
  rw [List.all_eq_true]
  constructor
  · intro h
    obtain ⟨front, back, hcs, hfront, hback⟩ := exists_blanks cs
    rw [h, List.append_nil] at hcs
    exact hcs ▸ List.forall_mem_append.mpr ⟨hfront, hback⟩
  · intro h
    rw [trim, trimStart, List.dropWhile_eq_nil_iff.mpr h]
    rfl

theorem exists_solid_end (h : trim cs ≠ []) : ∃ front c, trim cs = front ++ [c] ∧ isBlank c = false := by
  have hlast := List.rdropWhile_last_not isBlank (trimStart cs) h
  exact ⟨_, _, (List.dropLast_concat_getLast h).symm, Bool.eq_false_iff.mpr hlast⟩

theorem exists_solid_start (h : trim cs ≠ []) : ∃ c rest, trim cs = c :: rest ∧ isBlank c = false := by
  obtain ⟨c, rest, htrim⟩ := List.exists_cons_of_ne_nil h
  have hstart := trimStart_trim cs
  rw [htrim] at hstart
  have hc : ¬isBlank c = true := List.dropWhile_eq_self_iff.mp hstart (Nat.zero_lt_succ _)
  exact ⟨c, rest, htrim, Bool.eq_false_iff.mpr hc⟩

/-- Lines without newlines, of which the first one is not blank and the last one ends with no blank. -/
structure IsBody (first : List Char) (rest : List (List Char)) : Prop where
  bare : ∀ line ∈ first :: rest, '\n' ∉ line
  begins : ∃ c ∈ first, isBlank c = false
  ends : ∃ front line c, first :: rest = front ++ [line ++ [c]] ∧ isBlank c = false

/-- What trimming leaves of a text is cut into the lines of a body. -/
theorem isBody_of_splitBy (h : trim cs ≠ []) (hsplit : splitBy (· == '\n') (trim cs) = first :: rest) : IsBody first rest where
  bare := hsplit ▸ fun _ => Output.newline_not_mem
  begins := by
    obtain ⟨c, more, htrim, hc⟩ := exists_solid_start h
    have hcut : (c == '\n') = false := beq_false_of_ne fun heq => absurd (heq ▸ hc) (by decide)
    obtain ⟨piece, pieces, hpieces⟩ := List.exists_cons_of_ne_nil (splitBy_ne_nil (· == '\n') more)
    rw [htrim, splitBy, hcut] at hsplit
    simp only [hpieces] at hsplit
    cases hsplit
    exact ⟨c, List.mem_cons_self, hc⟩
  ends := by
    obtain ⟨before, c, htrim, hc⟩ := exists_solid_end h
    have hcut : (c == '\n') = false := beq_false_of_ne fun heq => absurd (heq ▸ hc) (by decide)
    obtain ⟨front, last, -, hconcat⟩ := exists_last_piece (· == '\n') before
    exact ⟨front, last, c, by rw [← hsplit, htrim, hconcat c hcut], hc⟩

/-- The lines of a trimmed text are what stands between its newlines, each without one return at its end. -/
theorem lines_trim (h : trim cs ≠ []) : lines (trim cs) = (splitBy (· == '\n') (trim cs)).map dropReturn := by
  obtain ⟨first, rest, hsplit⟩ := List.exists_cons_of_ne_nil (splitBy_ne_nil (· == '\n') (trim cs))
  obtain ⟨front, line, c, hlines, hc⟩ := (isBody_of_splitBy h hsplit).ends
  rw [lines, hsplit, hlines, linesOf_concat (List.concat_ne_nil c line), List.map_append, List.map_singleton,
    dropReturn_concat hc]

theorem lines_of_splitBy (h : trim cs ≠ []) (hsplit : splitBy (· == '\n') (trim cs) = first :: rest) :
    lines (trim cs) = dropReturn first :: rest.map dropReturn := by
  rw [lines_trim h, hsplit, List.map_cons]

namespace IsBody

/-- The blanks before the first line may go. -/
theorem trimStart (h : IsBody first rest) : IsBody (Text.trimStart first) rest where
  bare := by
    obtain ⟨hfirst, hrest⟩ := List.forall_mem_cons.mp h.bare
    exact List.forall_mem_cons.mpr ⟨fun hmem => hfirst ((List.dropWhile_suffix isBlank).subset hmem), hrest⟩
  begins := by
    obtain ⟨c, hfirst, hc⟩ := h.begins
    rw [← List.takeWhile_append_dropWhile (p := isBlank) (l := first)] at hfirst
    refine ⟨c, (List.mem_append.mp hfirst).resolve_left fun hblank => ?_, hc⟩
    rw [List.mem_takeWhile_imp hblank] at hc
    cases hc
  ends := by
    obtain ⟨front, line, c, hlines, hc⟩ := h.ends
    cases front with
    | nil =>
      cases hlines
      exact ⟨[], Text.trimStart line, c, by rw [Text.trimStart, dropWhile_append_stop hc]; rfl, hc⟩
    | cons first' front =>
      cases hlines
      exact ⟨Text.trimStart first :: front, line, c, rfl, hc⟩

/-- Of the lines of a body, each with a newline at its end, trimming takes blanks before the first one and the newline
    after the last one. -/
theorem splitBy_trim (h : IsBody first rest) :
    trim (Output.ended (first :: rest)) ≠ [] ∧
      splitBy (· == '\n') (trim (Output.ended (first :: rest))) = Text.trimStart first :: rest := by
  obtain ⟨c, hfirst, -⟩ := h.trimStart.begins
  have hsolid : Text.trimStart first ≠ [] := List.ne_nil_of_mem hfirst
  have hstart : Text.trimStart (Output.ended (first :: rest)) = Output.ended (Text.trimStart first :: rest) := by
    rw [Output.ended_cons, Output.ended_cons]
    exact dropWhile_append_of_ne_nil hsolid _
  -- The last line ends with no blank, so nothing but the newline after it goes from the end.
  have htrim : trim (Output.ended (first :: rest)) = Output.joinLines (Text.trimStart first :: rest) := by
    obtain ⟨front, line, d, hlines, hd⟩ := h.trimStart.ends
    rw [trim, hstart, ← Output.joinLines_newline, hlines, Output.joinLines_concat]
    exact (List.rdropWhile_concat_pos isBlank _ '\n' (by decide)).trans
      (List.rdropWhile_concat_neg isBlank _ d (Bool.eq_false_iff.mp hd))
  have hsplit : splitBy (· == '\n') (Output.joinLines (Text.trimStart first :: rest)) = Text.trimStart first :: rest :=
    Output.splitBy_joinLines h.trimStart.bare (List.cons_ne_nil _ rest)
  rw [htrim]
  refine ⟨fun hnil => ?_, hsplit⟩
  rw [Output.joinLines_cons, List.append_eq_nil_iff] at hnil
  exact hsolid hnil.1

end IsBody
end Text
end PromptForm
