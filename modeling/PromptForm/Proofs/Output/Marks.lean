import PromptForm.Output.Block
import PromptForm.Output.NormalForm

/-! # Marks in a text

A mark is a name between angles, `<name>` where it opens and `</name>` where it closes. The marks of a text are well
nested if each closing mark closes the innermost one that is open and none stays open (`isWellNested`). What sections and
items make of a body leaves its marks in order (`sectionText_neutral`, `itemText_neutral`), and so does the normal form of a
text (`normalForm_neutral`): blanks and newlines are no part of a mark, so that a text may be trimmed, and lines may be
indented and blank lines dropped. -/

namespace PromptForm.Output

/-! ### Reading marks -/

/-- How far a text has been read: the names that are open, the innermost first, and what has been read of a mark that
    has begun. -/
structure Reading where
  names : List (List Char) := []
  mark : Option (List Char) := none
deriving DecidableEq

namespace Reading

/-- At the end of a mark. A closing mark closes the innermost name, which has to be its own. -/
def endMark (names : List (List Char)) : List Char → Option Reading
  | '/' :: name => if names.head? = some name then some ⟨names.tail, none⟩ else none
  | name => some ⟨name :: names, none⟩

/-- Reads one character; none where the marks are not well nested. No mark has an angle or a blank inside. -/
def next (r : Reading) (c : Char) : Option Reading :=
  match r.mark with
  | none => if c = '<' then some ⟨r.names, some []⟩ else if c = '>' then none else some r
  | some read =>
    if c = '>' then endMark r.names read
    else if c = '<' || Text.isBlank c then none
    else some ⟨r.names, some (read ++ [c])⟩

def read (r : Reading) (cs : List Char) : Option Reading := cs.foldlM next r

end Reading

/-- The marks of a text are well nested. -/
def isWellNested (cs : List Char) : Bool := Reading.read {} cs == some {}

example : isWellNested "<role>\n<task>x</task>\n</role>".toList = true := by decide +kernel
example : isWellNested "<role><task></role></task>".toList = false := by decide +kernel

namespace Reading
variable {r r' : Reading} {c : Char} {cs ds : List Char}

@[simp] theorem read_nil (r : Reading) : r.read [] = some r := rfl

theorem read_cons (r : Reading) (c : Char) (cs : List Char) : r.read (c :: cs) = (r.next c).bind (·.read cs) := by
  simp only [read, List.foldlM_cons]
  rfl

theorem read_append (r : Reading) (cs ds : List Char) : r.read (cs ++ ds) = (r.read cs).bind (·.read ds) := by
  simp only [read, List.foldlM_append]
  rfl

/-- A blank stands outside of marks and changes nothing. -/
theorem next_blank (hc : Text.isBlank c = true) (h : r.next c = some r') : r.mark = none ∧ r' = r := by
  unfold next at h
  split at h
  · rename_i hmark
    have hopen : c ≠ '<' := by rintro rfl; exact absurd hc (by decide)
    have hclose : c ≠ '>' := by rintro rfl; exact absurd hc (by decide)
    rw [if_neg hopen, if_neg hclose] at h
    exact ⟨hmark, (Option.some.inj h).symm⟩
  · have hclose : c ≠ '>' := by rintro rfl; exact absurd hc (by decide)
    rw [if_neg hclose, hc, Bool.or_true, if_pos rfl] at h
    cases h

theorem read_blanks : ∀ {cs : List Char} {r r' : Reading}, (∀ c ∈ cs, Text.isBlank c = true) → r.read cs = some r' → r' = r
  | [], _, _, _, h => (Option.some.inj h).symm
  | c :: cs, r, r', hcs, h => by
    obtain ⟨hc, hrest⟩ := List.forall_mem_cons.mp hcs
    rw [read_cons, Option.bind_eq_some_iff] at h
    obtain ⟨next, hnext, hread⟩ := h
    obtain ⟨-, rfl⟩ := next_blank hc hnext
    exact read_blanks hrest hread

/-- Blanks at the end may go. -/
theorem read_trimEnd (h : r.read cs = some r') : r.read (Text.trimEnd cs) = some r' := by
  have hsplit : cs = Text.trimEnd cs ++ (cs.reverse.takeWhile Text.isBlank).reverse := by
    rw [Text.trimEnd, ← List.reverse_append, List.takeWhile_append_dropWhile, List.reverse_reverse]
  rw [hsplit, read_append, Option.bind_eq_some_iff] at h
  obtain ⟨mid, hmid, hread⟩ := h
  have hblank : ∀ c ∈ (cs.reverse.takeWhile Text.isBlank).reverse, Text.isBlank c = true := fun c hc =>
    List.all_eq_true.mp List.all_takeWhile c (List.mem_reverse.mp hc)
  rw [read_blanks hblank hread, hmid]

/-- Blanks at the beginning may go. -/
theorem read_trimStart (h : r.read cs = some r') : r.read (Text.trimStart cs) = some r' := by
  have hsplit : cs = cs.takeWhile Text.isBlank ++ Text.trimStart cs := (List.takeWhile_append_dropWhile).symm
  rw [hsplit, read_append, Option.bind_eq_some_iff] at h
  obtain ⟨mid, hmid, hread⟩ := h
  rwa [read_blanks (List.all_eq_true.mp List.all_takeWhile) hmid] at hread

theorem read_trim (h : r.read cs = some r') : r.read (Text.trim cs) = some r' :=
  read_trimEnd (read_trimStart h)

end Reading

/-! ### What a text does to the open names -/

/-- A text leads from some open names to others, and cuts no mark. -/
def Passes (names : List (List Char)) (cs : List Char) (after : List (List Char)) : Prop :=
  Reading.read ⟨names, none⟩ cs = some ⟨after, none⟩

/-- Lines lead from some open names to others, and none of them cuts a mark. -/
inductive PassesLines : List (List Char) → List (List Char) → List (List Char) → Prop where
  | nil {a} : PassesLines a [] a
  | cons {a b c line lines} (hline : Passes a line b) (hlines : PassesLines b lines c) : PassesLines a (line :: lines) c

/-- A text closes what it opens and nothing else, whatever is open around it. -/
def Neutral (cs : List Char) : Prop := ∀ names, Passes names cs names

theorem Neutral.isWellNested {cs : List Char} (h : Neutral cs) : isWellNested cs = true := by
  have hread : Reading.read {} cs = some {} := h []
  rw [Output.isWellNested, hread, beq_self_eq_true]

/-- No angle stands in the text. -/
def AngleFree (cs : List Char) : Prop := ∀ c ∈ cs, c ≠ '<' ∧ c ≠ '>'

section Texts
variable {a b c : List (List Char)} {cs ds : List Char}

namespace Passes

theorem nil : Passes a [] a := rfl

theorem append (h : Passes a cs b) (h' : Passes b ds c) : Passes a (cs ++ ds) c := by
  rw [Passes, Reading.read_append, h]
  exact h'

theorem trim (h : Passes a cs b) : Passes a (Text.trim cs) b := Reading.read_trim h

theorem of_blanks (hcs : ∀ c ∈ cs, Text.isBlank c = true) (h : Passes a cs b) : b = a :=
  congrArg Reading.names (Reading.read_blanks hcs h)

theorem of_angleFree : ∀ {cs : List Char}, AngleFree cs → Passes a cs a
  | [], _ => nil
  | c :: cs, h => by
    obtain ⟨⟨hopen, hclose⟩, hrest⟩ := List.forall_mem_cons.mp h
    have hnext : Reading.next ⟨a, none⟩ c = some ⟨a, none⟩ := by
      simp only [Reading.next, hopen, hclose, if_false]
    rw [Passes, Reading.read_cons, hnext]
    exact of_angleFree hrest

end Passes

theorem newline_angleFree : AngleFree ['\n'] := by simp [AngleFree]

/-- A carriage return at the end may go. -/
theorem Passes.dropReturn (h : Passes a cs b) : Passes a (Text.dropReturn cs) b := by
  unfold Text.dropReturn
  split
  · rename_i rest hrest
    have hsplit : cs = rest.reverse ++ ['\r'] := by rw [← List.reverse_reverse cs, hrest, List.reverse_cons]
    rw [Passes, hsplit, Reading.read_append, Option.bind_eq_some_iff] at h
    obtain ⟨mid, hmid, hread⟩ := h
    have hblank : ∀ c ∈ ['\r'], Text.isBlank c = true := List.forall_mem_singleton.mpr (by decide)
    rw [Passes, Reading.read_blanks hblank hread, hmid]
  · exact h

namespace Neutral

theorem of_angleFree (h : AngleFree cs) : Neutral cs := fun _ => .of_angleFree h

theorem append (h : Neutral cs) (h' : Neutral ds) : Neutral (cs ++ ds) := fun names => (h names).append (h' names)

end Neutral

/-! ### Lines -/

theorem lines_of_read {b : List (List Char)} : ∀ (cs : List Char) (r : Reading), r.read cs = some ⟨b, none⟩ →
    ∃ first rest mid, Text.splitBy (· == '\n') cs = first :: rest ∧ r.read first = some ⟨mid, none⟩ ∧ PassesLines mid rest b
  | [], r, h => ⟨[], [], b, rfl, h, .nil⟩
  | c :: cs, r, h => by
    rw [Reading.read_cons, Option.bind_eq_some_iff] at h
    obtain ⟨r', hnext, hread⟩ := h
    obtain ⟨first, rest, mid, hsplit, hfirst, hrest⟩ := lines_of_read cs r' hread
    unfold Text.splitBy
    by_cases hc : c = '\n'
    · subst hc
      -- A newline stands outside of marks, so that the line before it ends there.
      obtain ⟨hmark, rfl⟩ := Reading.next_blank (by decide) hnext
      obtain ⟨names, mark⟩ := r'
      cases hmark
      exact ⟨[], first :: rest, names, by rw [hsplit]; rfl, rfl, .cons hfirst hrest⟩
    · refine ⟨c :: first, rest, mid, ?_, ?_, hrest⟩
      · rw [hsplit, if_neg (by simpa using hc)]
      · rw [Reading.read_cons, hnext]
        exact hfirst

namespace PassesLines
variable {lines more : List (List Char)}

theorem of_split (h : Passes a cs b) : PassesLines a (Text.splitBy (· == '\n') cs) b := by
  obtain ⟨first, rest, mid, hsplit, hfirst, hrest⟩ := lines_of_read cs _ h
  rw [hsplit]
  exact .cons hfirst hrest

theorem append (h : PassesLines a lines b) (h' : PassesLines b more c) : PassesLines a (lines ++ more) c := by
  induction h with
  | nil => exact h'
  | cons hline _ ih => exact .cons hline (ih h')

theorem of_append : ∀ {lines : List (List Char)} {a : List (List Char)}, PassesLines a (lines ++ more) c →
    ∃ b, PassesLines a lines b ∧ PassesLines b more c
  | [], a, h => ⟨a, .nil, h⟩
  | line :: lines, a, h => by
    cases h with
    | cons hline hlines =>
      obtain ⟨b, hfirst, hrest⟩ := of_append hlines
      exact ⟨b, .cons hline hfirst, hrest⟩

theorem joinLines : ∀ {lines : List (List Char)} {a : List (List Char)}, PassesLines a lines b → Passes a (joinLines lines) b
  | [], _, h => by
    cases h
    exact .nil
  | [line], _, h => by
    cases h with
    | cons hline hrest =>
      cases hrest
      exact hline
  | line :: next :: rest, _, h => by
    cases h with
    | cons hline hrest =>
      exact hline.append ((Passes.of_angleFree newline_angleFree).append hrest.joinLines)

theorem linesOf : ∀ {pieces : List (List Char)} {a : List (List Char)}, PassesLines a pieces b →
    PassesLines a (Text.linesOf pieces) b
  | [], _, h => h
  | [last], _, h => by
    cases h with
    | cons hline hrest =>
      unfold Text.linesOf
      split
      · rename_i hempty
        rw [List.isEmpty_iff.mp hempty] at hline
        cases hline
        exact hrest
      · exact .cons hline hrest
  | piece :: next :: rest, _, h => by
    cases h with
    | cons hline hrest => exact .cons hline.dropReturn hrest.linesOf

theorem of_lines (h : Passes a cs b) : PassesLines a (Text.lines cs) b := (of_split h).linesOf

theorem indented {indent : List Char} (hindent : AngleFree indent) (h : PassesLines a lines b) :
    Passes a (indented indent lines) b := by
  induction h with
  | nil => exact .nil
  | @cons a b c line lines hline _ ih =>
    have hline : Passes a ((if line.isEmpty then [] else indent ++ line) ++ ['\n']) b := by
      refine Passes.append ?_ (.of_angleFree newline_angleFree)
      split
      · rename_i hempty
        rwa [List.isEmpty_iff.mp hempty] at hline
      · exact (Passes.of_angleFree hindent).append hline
    exact hline.append ih

theorem of_blankLine {line : List Char} (hline : isBlankLine line = true) : PassesLines a [line] a := by
  refine .cons (.of_angleFree fun c hc => ?_) .nil
  have hblank := List.all_eq_true.mp hline c hc
  constructor <;> rintro rfl <;> exact absurd hblank (by decide)

/-- A blank line changes nothing. -/
theorem eq_of_blankLine {line : List Char} (hline : isBlankLine line = true) (h : Passes a line b) : b = a := by
  refine h.of_blanks fun c hc => ?_
  have hblank := List.all_eq_true.mp hline c hc
  rw [Bool.or_eq_true, beq_iff_eq, beq_iff_eq] at hblank
  rcases hblank with rfl | rfl <;> decide

/-- Runs of blank lines may be merged. -/
theorem mergeRuns : ∀ {lines : List (List Char)} {pending : Option (List Char)} {a : List (List Char)},
    (∀ line ∈ pending, isBlankLine line = true) → PassesLines a lines b → PassesLines a (mergeRuns pending lines) b
  | [], pending, a, hpending, h => by
    cases h
    cases pending with
    | none => exact .nil
    | some line => exact of_blankLine (hpending line rfl)
  | line :: rest, pending, a, hpending, h => by
    cases h with
    | cons hline hrest =>
      unfold Output.mergeRuns
      -- A blank line opens and closes nothing, so it can wait, and two of them can become one.
      split
      · rename_i hblank
        obtain rfl := eq_of_blankLine hblank hline
        refine hrest.mergeRuns fun next hnext => ?_
        cases hnext
        split
        · rfl
        · exact hblank
      · have hkept : PassesLines a pending.toList a := by
          cases pending with
          | none => exact .nil
          | some line => exact of_blankLine (hpending line rfl)
        have hmerged : PassesLines _ (Output.mergeRuns none rest) b := mergeRuns (fun _ h => nomatch h) hrest
        exact hkept.append (.cons hline hmerged)

theorem mergeInside (h : PassesLines a lines b) : PassesLines a (mergeInside lines) b := by
  cases h with
  | nil => exact .nil
  | @cons _ mid _ first rest hfirst hrest =>
    cases hlast : rest.getLast? with
    | none =>
      rw [List.getLast?_eq_none_iff.mp hlast] at hrest ⊢
      exact .cons hfirst hrest
    | some last =>
      obtain ⟨inside, rfl⟩ := List.getLast?_eq_some_iff.mp hlast
      obtain ⟨c, hinside, hend⟩ := of_append hrest
      simp only [Output.mergeInside, hlast, List.dropLast_concat]
      have hmerged : PassesLines mid (Output.mergeRuns none inside) c := mergeRuns (fun _ h => nomatch h) hinside
      exact .cons hfirst (hmerged.append hend)

end PassesLines

/-! ### Items and sections -/

theorem freshLine_angleFree (out : List Char) : AngleFree (freshLine out) := by
  unfold freshLine
  split
  · exact nofun
  · exact nofun
  · exact newline_angleFree

/-- An item keeps the marks of its body in order. -/
theorem itemText_neutral {indent marker body : List Char} (hindent : AngleFree indent) (hmarker : AngleFree marker)
    (out : List Char) (hbody : Neutral body) : Neutral (itemText indent marker out body) := by
  intro names
  have hlines : PassesLines names (Text.lines (Text.trim body)) names := .of_lines (hbody names).trim
  unfold itemText
  dsimp only
  split
  · exact .nil
  · rename_i first rest heq
    rw [heq] at hlines
    cases hlines with
    | cons hfirst hrest =>
      have hlead : AngleFree (freshLine out ++ marker ++ [' ']) :=
        List.forall_mem_append.mpr ⟨List.forall_mem_append.mpr ⟨freshLine_angleFree out, hmarker⟩, by simp⟩
      have hline := ((Passes.of_angleFree hlead).append hfirst).append (.of_angleFree newline_angleFree)
      simpa using hline.append (hrest.indented hindent)

/-- What may stand in a mark: no angle, no slash and no blank. -/
def IsMarkName (name : List Char) : Prop := ∀ c ∈ name, c ≠ '<' ∧ c ≠ '>' ∧ c ≠ '/' ∧ Text.isBlank c = false

theorem read_name : ∀ {name read : List Char}, IsMarkName name →
    Reading.read ⟨a, some read⟩ name = some ⟨a, some (read ++ name)⟩
  | [], read, _ => by rw [List.append_nil, Reading.read_nil]
  | c :: name, read, h => by
    obtain ⟨⟨hopen, hclose, -, hblank⟩, hname⟩ := List.forall_mem_cons.mp h
    have hnext : Reading.next ⟨a, some read⟩ c = some ⟨a, some (read ++ [c])⟩ := by
      simp [Reading.next, hopen, hclose, hblank]
    rw [Reading.read_cons, hnext, Option.bind_some, read_name hname, List.append_assoc, List.singleton_append]

theorem passes_opening {name : List Char} (h : IsMarkName name) : Passes a ('<' :: name ++ ['>']) (name :: a) := by
  have hend : Reading.endMark a name = some ⟨name :: a, none⟩ := by
    unfold Reading.endMark
    split
    · exact absurd rfl (h '/' List.mem_cons_self).2.2.1
    · rfl
  have hbegin : Reading.next ⟨a, none⟩ '<' = some ⟨a, some []⟩ := rfl
  rw [Passes, List.cons_append, Reading.read_cons, hbegin, Option.bind_some, Reading.read_append, read_name h]
  simpa [Reading.read_cons, Reading.next] using hend

theorem passes_closing {name : List Char} (h : IsMarkName name) : Passes (name :: a) (['<', '/'] ++ name ++ ['>']) a := by
  have hbegin : Reading.read ⟨name :: a, none⟩ ['<', '/'] = some ⟨name :: a, some ['/']⟩ := rfl
  have hend : Reading.endMark (name :: a) ('/' :: name) = some ⟨a, none⟩ := if_pos rfl
  rw [Passes, List.append_assoc, Reading.read_append, hbegin, Option.bind_some, Reading.read_append, read_name h]
  simpa [Reading.read_cons, Reading.next] using hend

/-- A section keeps the marks of its body in order, and sets it between marks of its own at most. -/
theorem sectionText_neutral {style : SectionStyle} {body : List Char} (hname : IsMarkName style.name)
    (htitle : AngleFree (style.title.getD (titleOf style.name))) (hbody : Neutral body) : Neutral (sectionText style body) := by
  have hnewlines : Neutral ['\n', '\n'] := .of_angleFree (by simp [AngleFree])
  have hsetOff : ∀ {cs}, Neutral cs → Neutral (setOff cs) := fun h => (hnewlines.append h).append hnewlines
  have hkept : Neutral (if style.trims then Text.trim body else body) := by
    split
    · exact fun names => (hbody names).trim
    · exact hbody
  unfold sectionText
  dsimp only
  generalize (if style.trims then Text.trim body else body) = kept at hkept ⊢
  -- An empty section is nothing; any other stands between its marks, under its heading, or alone.
  split
  · exact .of_angleFree (by simp [AngleFree])
  · split
    · refine hsetOff fun names => ?_
      have hinside := ((Passes.of_angleFree newline_angleFree).append (hkept (style.name :: names))).append
        (.of_angleFree newline_angleFree)
      simpa using ((passes_opening hname).append hinside).append (passes_closing hname)
    · have hheading : AngleFree (headingMarks style.depth ++ ' ' :: style.title.getD (titleOf style.name) ++ ['\n', '\n']) := by
        refine List.forall_mem_append.mpr ⟨List.forall_mem_append.mpr ⟨fun c hc => ?_, ?_⟩, by simp⟩
        · rw [(List.mem_replicate.mp hc).2]
          decide
        · exact List.forall_mem_cons.mpr ⟨by decide, htitle⟩
      exact hsetOff ((Neutral.of_angleFree hheading).append hkept)
    · exact hsetOff hkept

/-- The normal form of a text has the marks of the text. -/
theorem normalForm_neutral (trims : Bool) (h : Neutral cs) : Neutral (normalForm trims cs) := by
  have hcollapse : Neutral (collapse cs) := fun names => (PassesLines.of_split (h names)).mergeInside.joinLines
  unfold normalForm
  split
  · exact fun names => (hcollapse names).trim
  · exact hcollapse

end Texts
end PromptForm.Output
