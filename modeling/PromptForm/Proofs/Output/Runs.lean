import Mathlib.Data.List.Chain
import PromptForm.Pass.Result
import PromptForm.Proofs.Component.Items
import PromptForm.Proofs.Text.Pieces

/-! # Runs of blank lines

A run is a newline and at least two more, with nothing but spaces and tabs between them. The normal form writes two newlines
for runs of a text (`collapses_collapse`) and leaves none (`not_hasRun_normalForm`). So a text without runs stays as it is,
nothing but newlines, spaces and tabs is lost apart from blanks at the ends, and a normal form is its own normal form
(`normalForm_fixed`). -/

namespace PromptForm.Output

/-- A newline, and two or more blank lines with their newlines. -/
def IsRun (cs : List Char) : Prop := ∃ blanks : List (List Char), 2 ≤ blanks.length ∧
  (∀ line ∈ blanks, isBlankLine line = true) ∧ cs = '\n' :: blanks.flatMap (· ++ ['\n'])

/-- Somewhere in the text there is a run. -/
def HasRun (cs : List Char) : Prop := ∃ run, IsRun run ∧ run <:+: cs

/-- Some runs of a text replaced by two newlines each. -/
inductive Collapses : List Char → List Char → Prop where
  | nil : Collapses [] []
  | keep {c cs ds} (h : Collapses cs ds) : Collapses (c :: cs) (c :: ds)
  | run {run cs ds} (hrun : IsRun run) (h : Collapses cs ds) : Collapses (run ++ cs) ('\n' :: '\n' :: ds)

/-- Neither newline nor space nor tab. -/
def isSolid (c : Char) : Bool := !(c == '\n' || c == ' ' || c == '\t')

theorem isBlank_of_not_isSolid {c : Char} (h : isSolid c = false) : Text.isBlank c = true := by
  simp only [isSolid, Bool.not_eq_false', Bool.or_eq_true, beq_iff_eq] at h
  rcases h with (rfl | rfl) | rfl <;> decide

theorem not_isSolid_of_isBlankLine {line : List Char} (h : isBlankLine line = true) :
    ∀ c ∈ line, isSolid c = false := fun c hc => by
  have hblank := List.all_eq_true.mp h c hc
  simp only [Bool.or_eq_true, beq_iff_eq] at hblank
  rcases hblank with rfl | rfl <;> rfl

theorem IsRun.not_isSolid {run : List Char} (h : IsRun run) : ∀ c ∈ run, isSolid c = false := by
  obtain ⟨blanks, -, hblanks, rfl⟩ := h
  refine List.forall_mem_cons.mpr ⟨rfl, fun c hc => ?_⟩
  obtain ⟨line, hline, hc⟩ := List.mem_flatMap.mp hc
  rcases List.mem_append.mp hc with hc | hc
  · exact not_isSolid_of_isBlankLine (hblanks line hline) c hc
  · rw [List.mem_singleton.mp hc]
    rfl

theorem HasRun.of_infix {cs ds : List Char} (h : HasRun cs) (hwithin : cs <:+: ds) : HasRun ds :=
  let ⟨run, hrun, hinside⟩ := h
  ⟨run, hrun, hinside.trans hwithin⟩

namespace Collapses
variable {cs ds : List Char}

theorem refl : ∀ cs, Collapses cs cs
  | [] => nil
  | _ :: cs => keep (refl cs)

theorem keeps (front : List Char) (h : Collapses cs ds) : Collapses (front ++ cs) (front ++ ds) := by
  induction front with
  | nil => exact h
  | cons c front ih => exact keep ih

theorem eq_of_not_hasRun (h : Collapses cs ds) (hcs : ¬HasRun cs) : ds = cs := by
  induction h with
  | nil => rfl
  | @keep c cs ds _ ih =>
    have htail : cs <:+: c :: cs := (List.suffix_cons c cs).isInfix
    rw [ih fun hrest => hcs (hrest.of_infix htail)]
  | @run run cs ds hrun => exact absurd ⟨run, hrun, (List.prefix_append run cs).isInfix⟩ hcs

theorem filter_isSolid (h : Collapses cs ds) : ds.filter isSolid = cs.filter isSolid := by
  induction h with
  | nil => rfl
  | keep _ ih => simp only [List.filter_cons, ih]
  | @run run cs ds hrun _ ih =>
    have hnone : run.filter isSolid = [] := List.filter_eq_nil_iff.mpr fun c hc => by simp [hrun.not_isSolid c hc]
    rw [List.filter_append, hnone, List.nil_append, ← ih]
    rfl

end Collapses

/-! ### Lines -/

theorem newline_not_mem_of_blank {line : List Char} (h : isBlankLine line = true) : '\n' ∉ line := fun hnewline =>
  absurd (List.all_eq_true.mp h '\n' hnewline) (by decide)

/-- A text with a run has two blank lines in a row, and lines before and after them. -/
theorem HasRun.exists_lines {cs : List Char} (h : HasRun cs) : ∃ front line next rest,
    Text.splitBy (· == '\n') cs = front ++ line :: next :: rest ∧ front ≠ [] ∧ rest ≠ [] ∧
      isBlankLine line = true ∧ isBlankLine next = true := by
  obtain ⟨run, ⟨blanks, hlength, hblanks, rfl⟩, before, after, rfl⟩ := h
  match blanks, hlength with
  | line :: next :: blanks, _ =>
    obtain ⟨hline, hblanks⟩ := List.forall_mem_cons.mp hblanks
    obtain ⟨hnext, -⟩ := List.forall_mem_cons.mp hblanks
    let rest := blanks.flatMap (· ++ ['\n']) ++ after
    have hsplit : before ++ '\n' :: (line :: next :: blanks).flatMap (· ++ ['\n']) ++ after =
        before ++ '\n' :: (line ++ '\n' :: (next ++ '\n' :: rest)) := by simp [rest]
    refine ⟨Text.splitBy (· == '\n') before, line, next, Text.splitBy (· == '\n') rest, ?_,
      Text.splitBy_ne_nil _ _, Text.splitBy_ne_nil _ _, hline, hnext⟩
    rw [hsplit, Text.splitBy_append rfl, splitBy_line (newline_not_mem_of_blank hline),
      splitBy_line (newline_not_mem_of_blank hnext)]

/-- One of the two lines is not blank. -/
def Parted (line next : List Char) : Prop := isBlankLine line = false ∨ isBlankLine next = false

/-- No two blank lines in a row are left. -/
theorem mergeRuns_parted : ∀ (lines : List (List Char)) (pending : Option (List Char)),
    (mergeRuns pending lines).IsChain Parted
  | [], none => .nil
  | [], some line => .singleton line
  | line :: lines, pending => by
    unfold mergeRuns
    split
    · exact mergeRuns_parted lines _
    · rename_i hsolid
      have hline : isBlankLine line = false := Bool.eq_false_iff.mpr hsolid
      have hrest : (line :: mergeRuns none lines).IsChain Parted :=
        List.isChain_cons.mpr ⟨fun _ _ => .inl hline, mergeRuns_parted lines none⟩
      cases pending with
      | none => exact hrest
      | some before =>
        refine List.isChain_cons.mpr ⟨fun next hnext => ?_, hrest⟩
        cases hnext
        exact .inr hline

theorem mergeRuns_forall {P : List Char → Prop} (hempty : P []) {lines : List (List Char)} {pending : Option (List Char)}
    (hpending : ∀ line ∈ pending, P line) (hlines : ∀ line ∈ lines, P line) : ∀ line ∈ mergeRuns pending lines, P line := by
  induction lines generalizing pending with
  | nil => exact fun line hline => hpending line (Option.mem_toList.mp hline)
  | cons next lines ih =>
    obtain ⟨hnext, hlines⟩ := List.forall_mem_cons.mp hlines
    unfold mergeRuns
    split
    · refine ih (fun line hline => ?_) hlines
      cases hline
      split
      · exact hempty
      · exact hnext
    · refine List.forall_mem_append.mpr ⟨fun line hline => hpending line (Option.mem_toList.mp hline), ?_⟩
      exact List.forall_mem_cons.mpr ⟨hnext, ih (fun line hline => absurd hline (Option.not_mem_none line)) hlines⟩

/-- A run of blank lines, of any length, as it waits to be written. -/
def pendingOf : List (List Char) → Option (List Char)
  | [] => none
  | [line] => some line
  | _ :: _ :: _ => some []

theorem pendingOf_concat (blanks : List (List Char)) (line : List Char) :
    pendingOf (blanks ++ [line]) = some (if (pendingOf blanks).isSome then [] else line) := by
  match blanks with
  | [] => rfl
  | [_] => rfl
  | _ :: _ :: _ => rfl

/-- Lines that wait are written before a newline. -/
theorem collapses_pending {blanks : List (List Char)} (hblanks : ∀ line ∈ blanks, isBlankLine line = true)
    {cs ds : List Char} (h : Collapses cs ds) :
    Collapses (begun blanks ++ '\n' :: cs) (begun (pendingOf blanks).toList ++ '\n' :: ds) := by
  match blanks, hblanks with
  | [], _ => exact .keep h
  | [line], _ => exact (Collapses.keep h).keeps (begun [line])
  | line :: next :: rest, hblanks =>
    have hrun : IsRun (begun (line :: next :: rest) ++ ['\n']) :=
      ⟨line :: next :: rest, by simp, hblanks, begun_newline _⟩
    have hcut : begun (line :: next :: rest) ++ '\n' :: cs = begun (line :: next :: rest) ++ ['\n'] ++ cs := by simp
    rw [hcut]
    exact .run hrun h

theorem collapses_mergeRuns (tail : List Char) (lines blanks : List (List Char))
    (hblanks : ∀ line ∈ blanks, isBlankLine line = true) :
    Collapses (begun (blanks ++ lines) ++ '\n' :: tail) (begun (mergeRuns (pendingOf blanks) lines) ++ '\n' :: tail) := by
  -- The blank lines of a run that may go on wait in `blanks`; at the next solid line they are written.
  induction lines generalizing blanks with
  | nil =>
    rw [List.append_nil]
    exact collapses_pending hblanks (.refl tail)
  | cons line lines ih =>
    unfold mergeRuns
    split
    · rename_i hline
      have hmore : ∀ blank ∈ blanks ++ [line], isBlankLine blank = true :=
        List.forall_mem_append.mpr ⟨hblanks, List.forall_mem_singleton.mpr hline⟩
      have hmerged := ih (blanks ++ [line]) hmore
      rwa [pendingOf_concat, List.append_assoc, List.singleton_append] at hmerged
    · have hwritten := collapses_pending hblanks ((ih [] (List.forall_mem_nil _)).keeps line)
      simpa [begun_append, pendingOf] using hwritten

/-- A line alone stays; otherwise the runs between the first line and the last are merged. -/
theorem mergeInside_cases (lines : List (List Char)) :
    (mergeInside lines = lines ∧ lines.length ≤ 1) ∨
      ∃ first inside last, lines = first :: (inside ++ [last]) ∧ mergeInside lines = first :: (mergeRuns none inside ++ [last]) := by
  cases lines with
  | nil => exact .inl ⟨rfl, Nat.zero_le 1⟩
  | cons first rest =>
    cases hlast : rest.getLast? with
    | none =>
      rw [List.getLast?_eq_none_iff.mp hlast]
      exact .inl ⟨rfl, Nat.le_refl 1⟩
    | some last =>
      obtain ⟨inside, rfl⟩ := List.getLast?_eq_some_iff.mp hlast
      refine .inr ⟨first, inside, last, rfl, ?_⟩
      simp only [mergeInside, hlast, List.dropLast_concat]

theorem collapses_mergeInside (lines : List (List Char)) : Collapses (joinLines lines) (joinLines (mergeInside lines)) := by
  rcases mergeInside_cases lines with ⟨hsame, -⟩ | ⟨first, inside, last, rfl, hmerged⟩
  · rw [hsame]
    exact .refl _
  · have hinside := (collapses_mergeRuns last inside [] nofun).keeps first
    rw [hmerged, joinLines_cons, joinLines_cons]
    simpa [begun_append, pendingOf] using hinside

theorem mergeInside_forall {P : List Char → Prop} (hempty : P []) {lines : List (List Char)} (hlines : ∀ line ∈ lines, P line) :
    ∀ line ∈ mergeInside lines, P line := by
  rcases mergeInside_cases lines with ⟨hsame, -⟩ | ⟨first, inside, last, rfl, hmerged⟩
  · rwa [hsame]
  · obtain ⟨hfirst, hrest⟩ := List.forall_mem_cons.mp hlines
    obtain ⟨hinside, hlast⟩ := List.forall_mem_append.mp hrest
    rw [hmerged]
    refine List.forall_mem_cons.mpr ⟨hfirst, List.forall_mem_append.mpr ⟨?_, hlast⟩⟩
    exact mergeRuns_forall hempty nofun hinside

theorem mergeInside_ne_nil {lines : List (List Char)} (h : lines ≠ []) : mergeInside lines ≠ [] := by
  rcases mergeInside_cases lines with ⟨hsame, -⟩ | ⟨first, inside, last, -, hmerged⟩
  · rwa [hsame]
  · rw [hmerged]
    exact List.cons_ne_nil _ _

/-- Between the first line and the last no two blank lines in a row are left. -/
theorem mergeInside_parted {lines front rest : List (List Char)} {line next : List Char}
    (h : mergeInside lines = front ++ line :: next :: rest) (hfront : front ≠ []) (hrest : rest ≠ []) : Parted line next := by
  rcases mergeInside_cases lines with ⟨hsame, hshort⟩ | ⟨first, inside, last, -, hmerged⟩
  · rw [← hsame, h, List.length_append, List.length_cons] at hshort
    exact absurd (List.length_pos_of_ne_nil hfront) (by omega)
  · rw [hmerged] at h
    obtain ⟨first', front, rfl⟩ := List.exists_cons_of_ne_nil hfront
    obtain ⟨rest, last', rfl⟩ := (List.eq_nil_or_concat rest).resolve_left hrest
    have hinside : mergeRuns none inside ++ [last] = (front ++ line :: next :: rest) ++ [last'] := by
      simpa using (List.cons.inj h).2
    have hchain := mergeRuns_parted inside none
    rw [(List.append_inj' hinside rfl).1] at hchain
    exact (List.isChain_append_cons_cons.mp hchain).2.1

/-! ### Normal forms -/

theorem collapses_collapse (cs : List Char) : Collapses cs (collapse cs) := by
  have hlines := collapses_mergeInside (Text.splitBy (· == '\n') cs)
  rwa [joinLines_splitBy] at hlines

theorem not_hasRun_collapse (cs : List Char) : ¬HasRun (collapse cs) := fun hrun => by
  obtain ⟨front, line, next, rest, hsplit, hfront, hrest, hline, hnext⟩ := hrun.exists_lines
  have hlines : Text.splitBy (· == '\n') (collapse cs) = mergeInside (Text.splitBy (· == '\n') cs) := by
    refine splitBy_joinLines (mergeInside_forall List.not_mem_nil fun line => newline_not_mem) ?_
    exact mergeInside_ne_nil (Text.splitBy_ne_nil _ cs)
  rw [hlines] at hsplit
  rcases mergeInside_parted hsplit hfront hrest with hsolid | hsolid
  · exact absurd hline (Bool.eq_false_iff.mp hsolid)
  · exact absurd hnext (Bool.eq_false_iff.mp hsolid)

theorem not_hasRun_normalForm (trims : Bool) (cs : List Char) : ¬HasRun (normalForm trims cs) := by
  unfold normalForm
  split
  · exact fun hrun => not_hasRun_collapse cs (hrun.of_infix (Text.trim_infix _))
  · exact not_hasRun_collapse cs

/-- A text without runs is only trimmed. -/
theorem normalForm_of_not_hasRun (trims : Bool) {cs : List Char} (h : ¬HasRun cs) :
    normalForm trims cs = if trims then Text.trim cs else cs := by
  rw [normalForm, (collapses_collapse cs).eq_of_not_hasRun h]

/-- Of what is neither newline nor space nor tab, only blanks at the ends go. -/
theorem filter_normalForm (trims : Bool) (cs : List Char) :
    (normalForm trims cs).filter isSolid = (if trims then Text.trim cs else cs).filter isSolid := by
  have hcollapse := (collapses_collapse cs).filter_isSolid
  have hblank : ∀ c, isSolid c = false → Text.isBlank c = true := fun _ => isBlank_of_not_isSolid
  unfold normalForm
  split
  · rw [Text.filter_trim hblank, Text.filter_trim hblank, hcollapse]
  · exact hcollapse

theorem normalForm_normalForm (trims : Bool) (cs : List Char) : normalForm trims (normalForm trims cs) = normalForm trims cs := by
  rw [normalForm_of_not_hasRun trims (not_hasRun_normalForm trims cs)]
  unfold normalForm
  split
  · rw [Text.trim_trim]
  · rfl

theorem hasRun_iff {cs : List Char} : HasRun cs ↔ collapse cs ≠ cs := by
  constructor
  · intro hrun hsame
    exact not_hasRun_collapse cs (hsame.symm ▸ hrun)
  · intro hchanged
    by_contra hrun
    exact hchanged ((collapses_collapse cs).eq_of_not_hasRun hrun)

instance (cs : List Char) : Decidable (HasRun cs) := decidable_of_iff _ hasRun_iff.symm

/-- The normal form of a text has no run. It is the text, blanks at its ends apart, if that has none; it is made by
    writing two newlines for runs, so that only newlines, spaces and tabs are lost; and it is its own normal form. So
    renderings stay as they are. -/
theorem normalForm_fixed (trims : Bool) (cs : List Char) :
    ¬HasRun (normalForm trims cs) ∧
    (¬HasRun cs → normalForm trims cs = if trims then Text.trim cs else cs) ∧
    (∃ collapsed, Collapses cs collapsed ∧ normalForm trims cs = if trims then Text.trim collapsed else collapsed) ∧
    (normalForm trims cs).filter isSolid = (if trims then Text.trim cs else cs).filter isSolid ∧
    normalForm trims (normalForm trims cs) = normalForm trims cs ∧
    ∀ (tree : Node) (registry : Registry) (ctx : Context) (answers : Fields),
      normalForm ctx.trim (render tree registry ctx answers).text.toList = (render tree registry ctx answers).text.toList ∧
      normalForm false (render tree registry ctx answers).text.toList = (render tree registry ctx answers).text.toList := by
  refine ⟨not_hasRun_normalForm trims cs, normalForm_of_not_hasRun trims, ⟨collapse cs, collapses_collapse cs, rfl⟩,
    filter_normalForm trims cs, normalForm_normalForm trims cs, fun tree registry ctx answers => ?_⟩
  simp only [render, String.toList_ofList]
  exact ⟨normalForm_normalForm ctx.trim _, normalForm_of_not_hasRun false (not_hasRun_normalForm ctx.trim _)⟩

/-- One blank line is no run, whatever blanks stand on it. -/
theorem normalForm_fixed_paragraphs :
    ¬HasRun " a\n \t\nb\n\n".toList ∧ normalForm true " a\n \t\nb\n\n".toList = Text.trim " a\n \t\nb\n\n".toList ∧
      HasRun "a\n \n\t\nb".toList := by
  have hrun : ¬HasRun " a\n \t\nb\n\n".toList := by decide +kernel
  exact ⟨hrun, (normalForm_fixed true " a\n \t\nb\n\n".toList).2.1 hrun, by decide +kernel⟩

end PromptForm.Output
