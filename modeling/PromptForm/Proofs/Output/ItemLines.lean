import PromptForm.Pass.Result
import PromptForm.Proofs.Component.Items
import PromptForm.Proofs.Pass.Context
import PromptForm.Proofs.Text.Lines
import PromptForm.Proofs.Tree.Places

/-! # Lines of items

An item writes its body line by line, the first line after its marker and the others after the indent, so that the lines can
be read back (`Output.itemLines?_ended`). What items inside each other write is what the innermost of them wrote, indented
once more by each item around it (`Output.nestedText_lines`), and walks of such items write just that
(`Setting.walkAll_nestedItems`). Each item takes a return before a newline for a part of the line's end, though. So returns at
the end of a line get lost further out, and a line of nothing else, behind an indent that ends with a return itself, does not
carry all indents (`Output.not_everyLineCarries`). All other lines do (`Output.itemText_lines`). -/

namespace PromptForm

namespace Output
open Text
variable {indent marker body first line : List Char} {rest : List (List Char)}

/-- A further line of an item as it is written. -/
def indentLine (indent line : List Char) : List Char := if line.isEmpty then [] else indent ++ line

theorem indented_eq (indent : List Char) (lines : List (List Char)) :
    indented indent lines = ended (lines.map (indentLine indent)) := by
  simp only [indented, ended, indentLine, List.flatMap_map]

theorem itemText_of_lines (h : lines (trim body) = first :: rest) (indent marker out : List Char) :
    itemText indent marker out body =
      freshLine out ++ ended ((marker ++ ' ' :: first) :: rest.map (indentLine indent)) := by
  simp [itemText, h, ended_cons, indented_eq]

theorem itemText_of_blank (h : trim body = []) (indent marker out : List Char) : itemText indent marker out body = [] := by
  simp [itemText, h, lines, splitBy, linesOf]

theorem newline_not_mem_indentLine (hindent : '\n' ∉ indent) (hline : '\n' ∉ line) : '\n' ∉ indentLine indent line := by
  unfold indentLine
  split
  · exact List.not_mem_nil
  · simp [hindent, hline]

/-! ### Reading items back -/

/-- The line that was written, empty or behind the indent. -/
def lineOf? (indent written : List Char) : Option (List Char) :=
  if written.isEmpty then some [] else afterPrefix? indent written

/-- The lines that an item wrote: behind the marker and a space, and behind the indent. Nothing stands after the last
    newline. -/
def itemLines? (indent marker block : List Char) : Option (List (List Char)) :=
  match splitBy (· == '\n') block with
  | [] => none
  | first :: rest => do
    let first ← afterPrefix? (marker ++ [' ']) first
    let further ← rest.dropLast.mapM (lineOf? indent)
    return first :: further

theorem lineOf?_indentLine (indent line : List Char) : lineOf? indent (indentLine indent line) = some line := by
  cases line with
  | nil => rfl
  | cons c line => simp [lineOf?, indentLine, afterPrefix?_append]

theorem mapM_lineOf? (indent : List Char) : ∀ lines : List (List Char),
    (lines.map (indentLine indent)).mapM (lineOf? indent) = some lines
  | [] => rfl
  | line :: lines => by simp [lineOf?_indentLine, mapM_lineOf? indent lines]

theorem itemLines?_ended (hbare : ∀ line ∈ (marker ++ ' ' :: first) :: rest.map (indentLine indent), '\n' ∉ line) :
    itemLines? indent marker (ended ((marker ++ ' ' :: first) :: rest.map (indentLine indent))) = some (first :: rest) := by
  have hmarked : marker ++ ' ' :: first = (marker ++ [' ']) ++ first := by simp
  rw [itemLines?, splitBy_ended hbare, List.cons_append]
  simp only [List.dropLast_concat, mapM_lineOf?, hmarked, afterPrefix?_append]
  rfl

/-! ### Items inside each other -/

/-- What items inside each other write, the outermost first, without anything before it. -/
def nestedText (indent : List Char) (markers : List (List Char)) (body : List Char) : List Char :=
  markers.foldr (fun marker inner => itemText indent marker [] inner) body

/-- A piece of a body as so many items write it. -/
def carried (indent : List Char) : Nat → List Char → List Char
  | 0, piece => piece
  | depth + 1, piece => indentLine indent (dropReturn (carried indent depth piece))

/-- What an item writes of a body is a body again. -/
theorem isBody_written (h : IsBody first rest) (hindent : '\n' ∉ indent) (hmarker : '\n' ∉ marker) :
    IsBody (marker ++ ' ' :: dropReturn first) (rest.map fun piece => indentLine indent (dropReturn piece)) where
  bare := by
    obtain ⟨hfirst, hrest⟩ := List.forall_mem_cons.mp h.bare
    refine List.forall_mem_cons.mpr ⟨fun hmem => ?_, fun line hline => ?_⟩
    · rcases List.mem_append.mp hmem with hmem | hmem
      · exact hmarker hmem
      · exact hfirst (dropReturn_subset first ((List.mem_cons.mp hmem).resolve_left (by decide)))
    · obtain ⟨piece, hpiece, rfl⟩ := List.mem_map.mp hline
      exact newline_not_mem_indentLine hindent fun hmem => hrest piece hpiece (dropReturn_subset piece hmem)
  begins := by
    obtain ⟨c, hfirst, hc⟩ := h.begins
    exact ⟨c, List.mem_append_right _ (List.mem_cons_of_mem _ (mem_dropReturn hc hfirst)), hc⟩
  ends := by
    obtain ⟨front, line, c, hlines, hc⟩ := h.ends
    cases front with
    | nil =>
      cases hlines
      exact ⟨[], marker ++ ' ' :: line, c, by simp [dropReturn_concat hc], hc⟩
    | cons first front =>
      cases hlines
      exact ⟨(marker ++ ' ' :: dropReturn first) :: front.map fun piece => indentLine indent (dropReturn piece),
        indent ++ line, c, by simp [dropReturn_concat hc, indentLine], hc⟩

/-- An item writes the pieces of its body without one return each. -/
theorem exists_itemText (hbody : trim body ≠ []) (hsplit : splitBy (· == '\n') (trim body) = first :: rest)
    (hindent : '\n' ∉ indent) (hmarker : '\n' ∉ marker) (out : List Char) :
    ∃ begun, IsBody begun (rest.map fun piece => indentLine indent (dropReturn piece)) ∧
      itemText indent marker out body =
        freshLine out ++ ended (begun :: rest.map fun piece => indentLine indent (dropReturn piece)) := by
  refine ⟨_, isBody_written (isBody_of_splitBy hbody hsplit) hindent hmarker, ?_⟩
  rw [itemText_of_lines (lines_of_splitBy hbody hsplit), List.map_map]
  rfl

/-- Each item around a body indents its further pieces once more. -/
theorem nestedText_lines (hbody : trim body ≠ []) (hsplit : splitBy (· == '\n') (trim body) = first :: rest)
    (hindent : '\n' ∉ indent) : ∀ {markers : List (List Char)}, (∀ marker ∈ markers, '\n' ∉ marker) →
      trim (nestedText indent markers body) ≠ [] ∧
        ∃ begun, splitBy (· == '\n') (trim (nestedText indent markers body)) = begun :: rest.map (carried indent markers.length)
  | [], _ => ⟨hbody, first, by rw [List.length_nil, show carried indent 0 = id from rfl, List.map_id]; exact hsplit⟩
  | marker :: markers, h => by
    obtain ⟨hmarker, hmarkers⟩ := List.forall_mem_cons.mp h
    obtain ⟨hinner, inside, hpieces⟩ := nestedText_lines hbody hsplit hindent hmarkers
    obtain ⟨begun, hisBody, htext⟩ := exists_itemText hinner hpieces hindent hmarker []
    rw [List.map_map] at hisBody htext
    have hnested : nestedText indent (marker :: markers) body = ended (begun :: rest.map (carried indent (markers.length + 1))) :=
      htext
    rw [hnested]
    obtain ⟨hne, hcut⟩ := hisBody.splitBy_trim
    exact ⟨hne, trimStart begun, hcut⟩

/-! ### Lines that carry indents -/

/-- A line without so many returns at its end, as far as there are any. -/
def dropReturns : Nat → List Char → List Char
  | 0, line => line
  | n + 1, line => dropReturn (dropReturns n line)

theorem exists_returns : ∀ (n : Nat) (line : List Char), ∃ m ≤ n, line = dropReturns n line ++ List.replicate m '\r'
  | 0, line => ⟨0, Nat.le_refl 0, (List.append_nil line).symm⟩
  | n + 1, line => by
    obtain ⟨m, hm, hline⟩ := exists_returns n line
    rcases dropReturn_cases (dropReturns n line) with ⟨-, hsame⟩ | hreturn
    · exact ⟨m, Nat.le_succ_of_le hm, by rw [dropReturns, hsame]; exact hline⟩
    · refine ⟨m + 1, Nat.succ_le_succ hm, ?_⟩
      rw [List.replicate_succ, dropReturns, List.append_cons, ← hreturn]
      exact hline

/-- A line as it is written so many items deep. An empty line stays empty. Another one carries all indents and loses a return
    at its end, if it has one, to each item but the innermost; unless the returns are all it has and run out behind an indent
    that ends with a return. -/
def Carries (indent : List Char) (depth : Nat) (line written : List Char) : Prop :=
  (line = [] → written = []) ∧
  (line ≠ [] → (indent.getLast? = some '\r' → (∀ c ∈ line, c = '\r') → depth ≤ line.length + 1) →
    written = (List.replicate depth indent).flatten ++ dropReturns (depth - 1) line)

theorem carried_of_empty {piece : List Char} (h : dropReturn piece = []) : ∀ depth, carried indent (depth + 1) piece = []
  | 0 => by rw [carried, carried, h]; rfl
  | depth + 1 => by rw [carried, carried_of_empty h depth]; rfl

theorem indentLine_eq {cs : List Char} (h : cs = [] → indent = []) : indentLine indent cs = indent ++ cs := by
  cases cs with
  | nil => rw [h rfl]; rfl
  | cons c cs => rfl

/-- One more item takes a return from the end of the line, but none from the indents before it. -/
theorem indentLine_dropReturn {depth n : Nat}
    (hreturns : indent.getLast? = some '\r' → (∀ c ∈ line, c = '\r') → n < line.length) :
    indentLine indent (dropReturn ((List.replicate (depth + 1) indent).flatten ++ dropReturns n line)) =
      (List.replicate (depth + 2) indent).flatten ++ dropReturns (n + 1) line := by
  have hkept : dropReturn ((List.replicate (depth + 1) indent).flatten ++ dropReturns n line) =
      (List.replicate (depth + 1) indent).flatten ++ dropReturns (n + 1) line := by
    by_cases hleft : dropReturns n line = []
    · -- The returns have run out, so the end of an indent is at stake: it must not be a return.
      obtain ⟨m, hm, hline⟩ := exists_returns n line
      rw [hleft, List.nil_append] at hline
      have hindent : indent.getLast? ≠ some '\r' := fun hlast => by
        have hlength := hreturns hlast (hline ▸ fun c hc => (List.mem_replicate.mp hc).2)
        rw [hline, List.length_replicate] at hlength
        omega
      rw [dropReturns, hleft, List.append_nil, show dropReturn [] = [] from rfl, List.append_nil, List.replicate_succ',
        List.flatten_append, List.flatten_singleton]
      by_cases hnil : indent = []
      · simp [hnil, dropReturn]
      · rw [dropReturn_append _ hnil, dropReturn_of_getLast? hindent]
    · exact dropReturn_append _ hleft
  have hfirst : (List.replicate (depth + 1) indent).flatten ++ dropReturns (n + 1) line = [] → indent = [] := fun hnil => by
    rw [List.replicate_succ, List.flatten_cons, List.append_assoc] at hnil
    exact (List.append_eq_nil_iff.mp hnil).1
  rw [hkept, indentLine_eq hfirst, List.replicate_succ (n := depth + 1), List.flatten_cons, List.append_assoc]

theorem carries_carried (indent piece : List Char) (depth : Nat) :
    Carries indent (depth + 1) (dropReturn piece) (carried indent (depth + 1) piece) := by
  refine ⟨fun hempty => carried_of_empty hempty depth, fun hline => ?_⟩
  induction depth with
  | zero =>
    intro _
    rw [carried, carried, indentLine_eq fun hnil => absurd hnil hline]
    simp [dropReturns]
  | succ depth ih =>
    intro hreturns
    have hfewer := ih fun hlast hall => Nat.le_of_succ_le (hreturns hlast hall)
    rw [carried, hfewer]
    exact indentLine_dropReturn fun hlast hall => Nat.lt_of_succ_le (Nat.le_of_succ_le_succ (hreturns hlast hall))

end Output

/-! ### Elements inside each other -/

/-- Item elements inside each other, by their props, the outermost first. -/
def Node.nestedItems : List Fields → List Node → List Node
  | [], children => children
  | props :: more, children => [.element Intrinsic.item.tag props (nestedItems more children)]

namespace Setting
open Output
variable {s : Setting} {scope : Scope}

/-- Items inside each other, as elements, write what the innermost one holds as items inside each other. -/
theorem walkAll_nestedItems (room sections : Nat) (children : List Node) (d : Draft) : ∀ {items : List (Fields × Fields)},
    (∀ e ∈ items, s.Handles Intrinsic.item.tag e.1 scope e.2 (.intrinsic .item)) →
      (s.walkAll (s.element (room + items.length)) scope sections (Node.nestedItems (items.map (·.1)) children)
        { d with text := [] }).text =
      nestedText s.ctx.indent.toList (items.map fun e => (markerOf e.2).toList)
        (s.walkAll (s.element room) scope sections children { d with text := [] }).text
  | [], _ => rfl
  | e :: items, h => by
    obtain ⟨he, hitems⟩ := List.forall_mem_cons.mp h
    have hinner := walkAll_nestedItems room sections children d hitems
    rw [List.map_cons, Node.nestedItems, walkAll_singleton]
    show (s.element (room + items.length + 1) _ _ _ scope sections { d with text := [] }).text = _
    rw [element_handlesItem he]
    show _ ++ itemText _ _ _ _ = _
    rw [hinner]
    rfl

end Setting

/-! ### All lines -/

namespace Output
open Text

theorem freshLine_cases (out : List Char) :
    freshLine out <+: ['\n'] ∧ (out ++ freshLine out = [] ∨ (out ++ freshLine out).getLast? = some '\n') := by
  unfold freshLine
  split
  · rename_i hnone
    exact ⟨List.nil_prefix, .inl (by rw [List.getLast?_eq_none_iff.mp hnone]; rfl)⟩
  · rename_i hlast
    exact ⟨List.nil_prefix, .inr (by rwa [List.append_nil])⟩
  · exact ⟨List.prefix_refl _, .inr List.getLast?_concat⟩

/-- A block has a line for each line of a body and ends with a newline, and the lines after the first carry the indents of so
    many items. -/
def CarriesLines (indent : List Char) (depth : Nat) (body block : List Char) : Prop :=
  (splitBy (· == '\n') block).length = (lines (trim body)).length + 1 ∧ block.getLast? = some '\n' ∧
  ∀ i line, (lines (trim body))[i + 1]? = some line →
    ∃ written, (splitBy (· == '\n') block)[i + 1]? = some written ∧ Carries indent depth line written

/-- What was written indents the pieces of a body as often as there are items around it. -/
theorem exists_nested {indent marker body : List Char} {markers : List (List Char)} (hbody : trim body ≠ [])
    (hindent : '\n' ∉ indent) (hmarkers : ∀ m ∈ marker :: markers, '\n' ∉ m) (out : List Char) :
    ∃ block, itemText indent marker out (nestedText indent markers body) = freshLine out ++ block ∧
      CarriesLines indent (markers.length + 1) body block := by
  obtain ⟨hmarker, hmarkers⟩ := List.forall_mem_cons.mp hmarkers
  obtain ⟨first, rest, hsplit⟩ := List.exists_cons_of_ne_nil (splitBy_ne_nil (· == '\n') (trim body))
  obtain ⟨hinner, inside, hpieces⟩ := nestedText_lines hbody hsplit hindent hmarkers
  obtain ⟨begun, hisBody, htext⟩ := exists_itemText hinner hpieces hindent hmarker out
  rw [List.map_map] at hisBody htext
  have hlines : lines (trim body) = dropReturn first :: rest.map dropReturn := lines_of_splitBy hbody hsplit
  have hcut : splitBy (· == '\n') (ended (begun :: rest.map (carried indent (markers.length + 1)))) =
      (begun :: rest.map (carried indent (markers.length + 1))) ++ [[]] := splitBy_ended hisBody.bare
  refine ⟨ended (begun :: rest.map (carried indent (markers.length + 1))), htext, ?_, ?_, fun i line hline => ?_⟩
  · rw [hcut, hlines]
    simp
  · rw [← joinLines_newline, List.getLast?_concat]
  · rw [hlines, List.getElem?_cons_succ, List.getElem?_map, Option.map_eq_some_iff] at hline
    obtain ⟨piece, hpiece, rfl⟩ := hline
    have hi : i < (rest.map (carried indent (markers.length + 1))).length := by
      rw [List.length_map]
      exact (List.getElem?_eq_some_iff.mp hpiece).1
    refine ⟨carried indent (markers.length + 1) piece, ?_, carries_carried indent piece markers.length⟩
    rw [hcut, List.cons_append, List.getElem?_cons_succ, List.getElem?_append_left hi, List.getElem?_map, hpiece,
      Option.map_some]

/-- Every further line that is not empty begins with the indents of all items around it. -/
def EveryLineCarries (indent : List Char) (markers : List (List Char)) (body : List Char) : Prop :=
  ∀ i line, (lines (trim body))[i + 1]? = some line → line ≠ [] →
    ∃ written, (splitBy (· == '\n') (nestedText indent markers body))[i + 1]? = some written ∧
      (List.replicate markers.length indent).flatten <+: written

/-- Three items with a return for an indent around a text with a line of one return. -/
def returnedItems : Node := .fragment (Node.nestedItems [[], [], []] [.literal "a\n\r\r\nb"])

/-- The third item finds a line of two returns, takes one of them for a part of the line's end, and writes its own in place. -/
theorem not_everyLineCarries :
    '\n' ∉ ['\r'] ∧ '\n' ∉ ['-'] ∧ ¬EveryLineCarries ['\r'] [['-'], ['-'], ['-']] "a\n\r\r\nb".toList ∧
    (render returnedItems .standard { Context.bare with indent := "\r" } []).text = "- - - a\n\r\r\n\r\r\rb" := by
  refine ⟨by decide, by decide, fun hall => ?_, by decide +kernel⟩
  obtain ⟨written, hwritten, hcarried⟩ := hall 0 ['\r'] (by decide +kernel) (by decide)
  have hwhole : (splitBy (· == '\n') (nestedText ['\r'] [['-'], ['-'], ['-']] "a\n\r\r\nb".toList))[1]? = some ['\r', '\r'] := by
    decide +kernel
  cases hwhole.symm.trans hwritten
  exact absurd hcarried (by decide)

/-- An item of blanks writes nothing. Any other begins at a line of its own, with at most one newline before, ends with a
    newline, and its lines can be read back: behind the marker and a space the first, behind the indent the others, and empty
    lines as they are. These are what stands between the newlines of the trimmed body, each without one return at its end. So
    the body of items inside each other is written line by line, and its further lines carry the indent of every item. Only a
    line of returns, fewer than there are items around the innermost, may carry less, if the indent ends with a return. -/
theorem itemText_lines (indent marker out body : List Char) (hindent : '\n' ∉ indent) (hmarker : '\n' ∉ marker) :
    (body.all isBlank = true → itemText indent marker out body = []) ∧
    (body.all isBlank = false →
      lines (trim body) = (splitBy (· == '\n') (trim body)).map dropReturn ∧
      ∃ block, itemText indent marker out body = freshLine out ++ block ∧
        freshLine out <+: ['\n'] ∧ (out ++ freshLine out = [] ∨ (out ++ freshLine out).getLast? = some '\n') ∧
        block.getLast? = some '\n' ∧ itemLines? indent marker block = some (lines (trim body))) ∧
    ∀ (s : Setting) (room sections : Nat) (scope : Scope) (children : List Node) (d : Draft) (outer : Fields × Fields)
      (items : List (Fields × Fields)),
      s.ctx.indent.toList = indent →
      (∀ e ∈ outer :: items, s.Handles Intrinsic.item.tag e.1 scope e.2 (.intrinsic .item) ∧
        '\n' ∉ (Setting.markerOf e.2).toList) →
      (s.walkAll (s.element room) scope sections children { d with text := [] }).text = body → body.all isBlank = false →
      ∃ block, (s.walkAll (s.element (room + items.length + 1)) scope sections
          (Node.nestedItems ((outer :: items).map (·.1)) children) d).text = d.text ++ (freshLine d.text ++ block) ∧
        CarriesLines indent (items.length + 1) body block := by
  have hsolid : body.all isBlank = false → trim body ≠ [] := fun h hnil => by
    rw [(trim_eq_nil_iff _).mp hnil] at h
    cases h
  refine ⟨fun h => itemText_of_blank ((trim_eq_nil_iff _).mpr h) indent marker out, fun h => ?_, ?_⟩
  · obtain ⟨first, rest, hsplit⟩ := List.exists_cons_of_ne_nil (splitBy_ne_nil (· == '\n') (trim body))
    have hlines : lines (trim body) = dropReturn first :: rest.map dropReturn := lines_of_splitBy (hsolid h) hsplit
    -- The marker and the indents hold no newline, so the lines of the block are those of the body.
    have hwritten := isBody_written (isBody_of_splitBy (hsolid h) hsplit) hindent hmarker
    obtain ⟨hfresh, hbegins⟩ := freshLine_cases out
    refine ⟨lines_trim (hsolid h), _, itemText_of_lines hlines indent marker out, hfresh, hbegins, ?_, ?_⟩
    · rw [← joinLines_newline, List.getLast?_concat]
    · rw [hlines]
      refine itemLines?_ended ?_
      rw [List.map_map]
      exact hwritten.bare
  · rintro s room sections scope children d outer items rfl hhandles rfl hblank
    obtain ⟨houter, hitems⟩ := List.forall_mem_cons.mp hhandles
    have hmarkers : ∀ m ∈ (Setting.markerOf outer.2).toList :: items.map fun e => (Setting.markerOf e.2).toList, '\n' ∉ m := by
      refine List.forall_mem_cons.mpr ⟨houter.2, fun m hm => ?_⟩
      obtain ⟨e, he, rfl⟩ := List.mem_map.mp hm
      exact (hitems e he).2
    obtain ⟨block, htext, hcarries⟩ := exists_nested (hsolid hblank) hindent hmarkers d.text
    rw [List.length_map] at hcarries
    refine ⟨block, ?_, hcarries⟩
    -- The outermost item places what the items inside of it have written.
    have hinner := Setting.walkAll_nestedItems room sections children d fun e he => (hitems e he).1
    rw [List.map_cons, Node.nestedItems, Setting.walkAll_singleton]
    show (s.element (room + items.length + 1) _ _ _ scope sections d).text = _
    rw [Setting.element_handlesItem houter.1]
    show d.text ++ itemText _ _ _ _ = _
    rw [hinner, htext]

/-- Two items around a text with both kinds of line ends and an empty line. -/
theorem itemText_lines_steps :
    let s : Setting := ⟨⟨.standard, .bare⟩, .final⟩
    let d : Draft := { text := ['x'] }
    '\n' ∉ "  ".toList ∧ '\n' ∉ "-".toList ∧ "Write\r\n\n code\n".toList.all isBlank = false ∧
    itemLines? "  ".toList "-".toList "- Write\n\n   code\n".toList = some ["Write".toList, [], " code".toList] ∧
    (∀ e ∈ [(([], []) : Fields × Fields), ([], [])], s.Handles Intrinsic.item.tag e.1 ⟨[], []⟩ e.2 (.intrinsic .item) ∧
      '\n' ∉ (Setting.markerOf e.2).toList) ∧
    ∃ block, (s.walkAll (s.element 2) ⟨[], []⟩ 0 (Node.nestedItems [[], []] [.literal "Write\r\n\n code\n"]) d).text =
      d.text ++ (freshLine d.text ++ block) ∧ CarriesLines "  ".toList 2 "Write\r\n\n code\n".toList block := by
  intro s d
  have hindent : '\n' ∉ "  ".toList := by decide
  have hmarker : '\n' ∉ "-".toList := by decide
  have hblank : "Write\r\n\n code\n".toList.all isBlank = false := by decide +kernel
  have hitem : s.Handles Intrinsic.item.tag [] ⟨[], []⟩ [] (.intrinsic .item) :=
    Surroundings.handles_intrinsic rfl rfl (by decide +kernel)
  have hhandles : ∀ e ∈ [(([], []) : Fields × Fields), ([], [])],
      s.Handles Intrinsic.item.tag e.1 ⟨[], []⟩ e.2 (.intrinsic .item) ∧ '\n' ∉ (Setting.markerOf e.2).toList := by
    intro e he
    rw [List.mem_pair.mp he |>.elim id id]
    exact ⟨hitem, by decide +kernel⟩
  obtain ⟨-, hread, hnested⟩ := itemText_lines "  ".toList "-".toList [] "Write\r\n\n code\n".toList hindent hmarker
  obtain ⟨-, block, htext, -, -, -, hback⟩ := hread hblank
  refine ⟨hindent, hmarker, hblank, ?_, hhandles, hnested s 0 0 ⟨[], []⟩ _ d ([], []) [([], [])] rfl hhandles rfl hblank⟩
  have hblock : block = "- Write\n\n   code\n".toList := by
    have hwritten : itemText "  ".toList "-".toList [] "Write\r\n\n code\n".toList = "- Write\n\n   code\n".toList := by
      decide +kernel
    exact htext.symm.trans hwritten
  have hlines : lines (trim "Write\r\n\n code\n".toList) = ["Write".toList, [], " code".toList] := by decide +kernel
  rw [← hblock, hback, hlines]

end Output
end PromptForm
