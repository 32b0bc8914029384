import PromptForm.Calendar.Format
import PromptForm.Proofs.Number.Texts
import PromptForm.Proofs.Output.Marks
import PromptForm.Value.Reading

/-! # Texts without angles

Numbers and dates are written without angles, and values are if there are none in the texts and keys in them
(`Value.isAngleFree`), however they are written. -/

namespace PromptForm

namespace Output.AngleFree
variable {cs ds : List Char}

instance (cs : List Char) : Decidable (AngleFree cs) := List.decidableBAll (fun c => c ≠ '<' ∧ c ≠ '>') cs

@[simp] theorem nil : AngleFree [] := by simp [AngleFree]

@[simp] theorem cons {c : Char} : AngleFree (c :: cs) ↔ (c ≠ '<' ∧ c ≠ '>') ∧ AngleFree cs := List.forall_mem_cons

@[simp] theorem append : AngleFree (cs ++ ds) ↔ AngleFree cs ∧ AngleFree ds := List.forall_mem_append

theorem concat {a b : String} (ha : AngleFree a.toList) (hb : AngleFree b.toList) : AngleFree (a ++ b).toList := by
  rw [String.toList_append, append]
  exact ⟨ha, hb⟩

theorem replicate {c : Char} (hc : c ≠ '<' ∧ c ≠ '>') (n : Nat) : AngleFree (List.replicate n c) := fun d hd => by
  rw [(List.mem_replicate.mp hd).2]
  exact hc

theorem take (h : AngleFree cs) (n : Nat) : AngleFree (cs.take n) := fun c hc => h c (List.mem_of_mem_take hc)

theorem drop (h : AngleFree cs) (n : Nat) : AngleFree (cs.drop n) := fun c hc => h c (List.mem_of_mem_drop hc)

theorem flatMap {α : Type} {f : α → List Char} {xs : List α} (h : ∀ x ∈ xs, AngleFree (f x)) : AngleFree (xs.flatMap f) := by
  intro c hc
  obtain ⟨x, hx, hc⟩ := List.mem_flatMap.mp hc
  exact h x hx c hc

theorem join {ss : List String} (h : ∀ s ∈ ss, AngleFree s.toList) : AngleFree (String.join ss).toList := by
  rw [String.toList_join]
  exact flatMap h

theorem intercalate {separator : List Char} (hseparator : AngleFree separator) : ∀ {pieces : List (List Char)},
    (∀ piece ∈ pieces, AngleFree piece) → AngleFree (separator.intercalate pieces)
  | [], _ => by
    rw [List.intercalate_nil]
    exact nil
  | [piece], h => by
    rw [List.intercalate_singleton]
    exact h piece List.mem_cons_self
  | piece :: next :: pieces, h => by
    obtain ⟨hpiece, hrest⟩ := List.forall_mem_cons.mp h
    rw [List.intercalate_cons_cons, append, append]
    exact ⟨⟨hpiece, hseparator⟩, intercalate hseparator hrest⟩

/-- Digits are no angles. -/
theorem digits (n : Nat) : AngleFree (Nat.toDigits 10 n) := by
  intro c hc
  have hdigit := Nat.isDigit_of_mem_toDigits (by decide) (by decide) hc
  constructor <;> rintro rfl <;> exact absurd hdigit (by decide)

theorem nat (n : Nat) : AngleFree (toString n).toList := by
  rw [Nat.toString_eq_repr, Nat.toList_repr]
  exact digits n

theorem int (n : Int) : AngleFree (toString n).toList := by
  cases n with
  | ofNat n => exact nat n
  | negSucc n =>
    exact concat (a := "-") (by decide) (nat (n + 1))

end Output.AngleFree

open Output (AngleFree)

/-! ### Numbers -/

namespace Number

/-- Layouts write angles only in their words for what is no finite number. -/
theorem Layout.text_angleFree {l : Layout} (hnan : AngleFree l.notANumber.toList) (hinfinity : AngleFree l.infinity.toList)
    (x : Float) : AngleFree (l.text x).toList := fun c hc => by
  rcases l.mem_text x hc with h | h | h
  · constructor <;> rintro rfl <;> exact absurd h (by decide)
  · exact hnan c h
  · exact hinfinity c h

theorem text_angleFree (n : Number) : AngleFree n.text.toList := by
  cases n with
  | int n => exact .int n
  | float x => exact Layout.text_angleFree (by decide) (by decide) x

end Number

/-! ### Values -/

theorem Text.jsonEscape_angleFree {c : Char} (hc : c ≠ '<' ∧ c ≠ '>') : AngleFree (jsonEscape c) := by
  have hcodes : ∀ n < 0x20, AngleFree (hexFour n) := by decide +kernel
  unfold jsonEscape
  repeat' split
  · decide
  · decide
  · decide
  · decide
  · decide
  · decide
  · decide
  · rename_i hcode
    exact AngleFree.cons.mpr ⟨by decide, AngleFree.cons.mpr ⟨by decide, hcodes _ hcode⟩⟩
  · exact AngleFree.cons.mpr ⟨hc, .nil⟩

theorem Text.jsonQuoted_angleFree {s : String} (h : AngleFree s.toList) : AngleFree (jsonQuoted s).toList := by
  have hescaped : AngleFree (s.toList.flatMap jsonEscape) := .flatMap fun c hc => jsonEscape_angleFree (h c hc)
  simp [jsonQuoted, hescaped]

namespace Value

mutual
/-- No text and no key in the value has an angle, at any depth. -/
def isAngleFree : Value → Bool
  | .null | .bool _ | .number _ => true
  | .string text => decide (AngleFree text.toList)
  | .list items => areAngleFree items
  | .object fields => fieldsAngleFree fields
termination_by structural v => v
def areAngleFree : List Value → Bool
  | [] => true
  | v :: vs => isAngleFree v && areAngleFree vs
termination_by structural vs => vs
def fieldsAngleFree : List (String × Value) → Bool
  | [] => true
  | (k, v) :: fields => decide (AngleFree k.toList) && isAngleFree v && fieldsAngleFree fields
termination_by structural fields => fields
end

theorem isAngleFree_string {text : String} : (Value.string text).isAngleFree = true ↔ AngleFree text.toList := by
  simp [isAngleFree]

theorem isAngleFree_of_mem : ∀ {fields : Fields} {k : String} {v : Value}, fieldsAngleFree fields = true →
    (k, v) ∈ fields → v.isAngleFree = true
  | (k', v') :: fields, k, v, h, hmem => by
    simp only [fieldsAngleFree, Bool.and_eq_true] at h
    rcases List.mem_cons.mp hmem with heq | hmem
    · cases heq
      exact h.1.2
    · exact isAngleFree_of_mem h.2 hmem

theorem isAngleFree_of_mem_items : ∀ {items : List Value} {v : Value}, areAngleFree items = true → v ∈ items →
    v.isAngleFree = true
  | item :: items, v, h, hmem => by
    obtain ⟨hitem, hitems⟩ := Bool.and_eq_true_iff.mp h
    rcases List.mem_cons.mp hmem with rfl | hmem
    · exact hitem
    · exact isAngleFree_of_mem_items hitems hmem

theorem comma_angleFree (last : Bool) : AngleFree (if last then "" else ",").toList := by
  cases last <;> decide

theorem bool_angleFree (b : Bool) : AngleFree (if b then "true" else "false").toList := by
  cases b <;> decide

mutual
theorem text_angleFree : ∀ v : Value, v.isAngleFree = true → AngleFree v.text.toList
  | .null, _ => by decide
  | .bool b, _ => bool_angleFree b
  | .number n, _ => n.text_angleFree
  | .string text, h => Text.jsonQuoted_angleFree (isAngleFree_string.mp h)
  | .list items, h => by
    have hitems := textItems_angleFree items h
    simp [text, hitems]
  | .object fields, h => by
    have hfields := textFields_angleFree fields h
    simp [text, hfields]
termination_by structural v => v
theorem textItems_angleFree : ∀ vs : List Value, areAngleFree vs = true → AngleFree (textItems vs).toList
  | [], _ => by decide
  | v :: vs, h => by
    obtain ⟨hv, hvs⟩ := Bool.and_eq_true_iff.mp h
    exact ((text_angleFree v hv).concat (comma_angleFree _)).concat (textItems_angleFree vs hvs)
termination_by structural vs => vs
theorem textFields_angleFree : ∀ fields : List (String × Value), fieldsAngleFree fields = true →
    AngleFree (textFields fields).toList
  | [], _ => by decide
  | (k, v) :: fields, h => by
    simp only [fieldsAngleFree, Bool.and_eq_true, decide_eq_true_eq] at h
    have hkey := Text.jsonQuoted_angleFree h.1.1
    have hfield := (hkey.concat (b := ":") (by decide)).concat (text_angleFree v h.1.2)
    exact (hfield.concat (comma_angleFree _)).concat (textFields_angleFree fields h.2)
termination_by structural fields => fields
end

theorem lineAt_angleFree (depth : Nat) : AngleFree (lineAt depth).toList := by
  have hindent : AngleFree (List.replicate (2 * depth) ' ') := .replicate (by decide) _
  simp [lineAt, hindent]

mutual
theorem prettyAt_angleFree (depth : Nat) : ∀ v : Value, v.isAngleFree = true → AngleFree (v.prettyAt depth).toList
  | .null, _ => (by decide : AngleFree "null".toList)
  | .bool b, _ => bool_angleFree b
  | .number n, _ => n.text_angleFree
  | .string text, h => Text.jsonQuoted_angleFree (isAngleFree_string.mp h)
  | .list [], _ => (by decide : AngleFree "[]".toList)
  | .list (v :: vs), h => by
    have hitems := prettyItems_angleFree (depth + 1) (v :: vs) h
    simp [prettyAt, hitems, lineAt_angleFree]
  | .object [], _ => (by decide : AngleFree "\x7b\x7d".toList)
  | .object (field :: fields), h => by
    have hfields := prettyFields_angleFree (depth + 1) (field :: fields) h
    simp [prettyAt, hfields, lineAt_angleFree]
termination_by structural v => v
theorem prettyItems_angleFree (depth : Nat) : ∀ vs : List Value, areAngleFree vs = true →
    AngleFree (prettyItems depth vs).toList
  | [], _ => .nil
  | v :: vs, h => by
    obtain ⟨hv, hvs⟩ := Bool.and_eq_true_iff.mp h
    have hitem := (lineAt_angleFree depth).concat (prettyAt_angleFree depth v hv)
    exact (hitem.concat (comma_angleFree _)).concat (prettyItems_angleFree depth vs hvs)
termination_by structural vs => vs
theorem prettyFields_angleFree (depth : Nat) : ∀ fields : List (String × Value), fieldsAngleFree fields = true →
    AngleFree (prettyFields depth fields).toList
  | [], _ => .nil
  | (k, v) :: fields, h => by
    simp only [fieldsAngleFree, Bool.and_eq_true, decide_eq_true_eq] at h
    have hkey := Text.jsonQuoted_angleFree h.1.1
    have hname := ((lineAt_angleFree depth).concat hkey).concat (b := ": ") (by decide)
    have hfield := hname.concat (prettyAt_angleFree depth v h.1.2)
    exact (hfield.concat (comma_angleFree _)).concat (prettyFields_angleFree depth fields h.2)
termination_by structural fields => fields
end

mutual
theorem display_angleFree : ∀ v : Value, v.isAngleFree = true → AngleFree v.display.toList
  | .null, _ => by decide
  | .string text, h => isAngleFree_string.mp h
  | .list items, h => displayItems_angleFree items h
  | .bool b, h => text_angleFree (.bool b) h
  | .number n, h => text_angleFree (.number n) h
  | .object fields, h => text_angleFree (.object fields) h
termination_by structural v => v
theorem displayItems_angleFree : ∀ vs : List Value, areAngleFree vs = true → AngleFree (displayItems vs).toList
  | [], _ => by decide
  | [v], h => display_angleFree v (Bool.and_eq_true_iff.mp h).1
  | v :: w :: vs, h => by
    obtain ⟨hv, hvs⟩ := Bool.and_eq_true_iff.mp h
    have hfirst := display_angleFree v hv
    have hrest := displayItems_angleFree (w :: vs) hvs
    simp [displayItems, hfirst, hrest]
termination_by structural vs => vs
end

end Value

/-! ### Dates -/

namespace Calendar

theorem padded_angleFree (width n : Nat) : AngleFree (padded width n).toList := by
  have hzeros : ∀ n, AngleFree (List.replicate n '0') := .replicate (by decide)
  simp [padded, hzeros, AngleFree.digits]

theorem yearText_angleFree (y : Int) : AngleFree (yearText y).toList := by
  unfold yearText
  split
  · exact padded_angleFree 4 _
  · split
    · exact AngleFree.concat (a := "-") (by decide) (padded_angleFree 4 _)
    · exact AngleFree.concat (a := "+") (by decide) (padded_angleFree 4 _)

namespace FormatItem

/-- No angle stands in the literal text of the item or between its parts. -/
def isAngleFree : FormatItem → Bool
  | .literal written => decide (AngleFree written.toList)
  | .text (.offset separator _) => decide (AngleFree separator.toList)
  | _ => true

theorem ofMark?_angleFree {c : Char} {items : List FormatItem} (h : ofMark? c = some items) :
    ∀ item ∈ items, item.isAngleFree = true := by
  unfold ofMark? at h
  split at h <;> cases h <;> decide

theorem withPadding?_angleFree {padding : Padding} {items padded : List FormatItem} (h : withPadding? padding items = some padded) :
    ∀ item ∈ padded, item.isAngleFree = true := by
  unfold withPadding? at h
  split at h
  · cases h
    simp [isAngleFree]
  · cases h

/-- Marks stand for items without angles, and what follows a mark are characters of the format. -/
theorem takeMark?_angleFree {cs rest : List Char} {items : List FormatItem} (hcs : AngleFree cs)
    (h : takeMark? cs = some (items, rest)) : (∀ item ∈ items, item.isAngleFree = true) ∧ AngleFree rest := by
  have hpadded : ∀ padding c cs, ((ofMark? c).bind (withPadding? padding)).map (·, cs) = some (items, rest) →
      (∀ item ∈ items, item.isAngleFree = true) ∧ cs = rest := by
    intro padding c cs h
    obtain ⟨padded, hpadded, heq⟩ := Option.map_eq_some_iff.mp h
    obtain ⟨plain, -, hpadding⟩ := Option.bind_eq_some_iff.mp hpadded
    cases heq
    exact ⟨withPadding?_angleFree hpadding, rfl⟩
  unfold takeMark? at h
  split at h
  case h_1 | h_2 | h_3 =>
    obtain ⟨hitems, rfl⟩ := hpadded _ _ _ h
    exact ⟨hitems, hcs.drop 2⟩
  case h_14 =>
    obtain ⟨marked, hmark, heq⟩ := Option.map_eq_some_iff.mp h
    cases heq
    exact ⟨ofMark?_angleFree hmark, hcs.drop 1⟩
  case h_15 => cases h
  -- The other marks are written with several characters, and stand for one item each.
  all_goals
    cases h
    refine ⟨by decide, fun c hc => hcs c ?_⟩
    simp only [List.mem_cons, hc, or_true]

theorem ofChars?_angleFree : ∀ {fuel : Nat} {cs : List Char} {items : List FormatItem}, AngleFree cs →
    ofChars? fuel cs = some items → ∀ item ∈ items, item.isAngleFree = true
  | fuel, [], _, _, h => by
    simp only [ofChars?, Option.some.injEq] at h
    rw [← h]
    exact nofun
  | 0, _ :: _, _, _, h => by cases h
  | fuel + 1, c :: cs, items, hcs, h => by
    obtain ⟨hc, hrest⟩ := AngleFree.cons.mp hcs
    by_cases hmark : c = '%'
    · subst hmark
      obtain ⟨⟨marked, rest⟩, htake, h⟩ := Option.bind_eq_some_iff.mp h
      obtain ⟨more, hmore, heq⟩ := Option.bind_eq_some_iff.mp h
      cases heq
      obtain ⟨hmarked, hrest⟩ := takeMark?_angleFree hrest htake
      exact List.forall_mem_append.mpr ⟨hmarked, ofChars?_angleFree hrest hmore⟩
    · simp only [ofChars?] at h
      obtain ⟨more, hmore, heq⟩ := Option.bind_eq_some_iff.mp h
      cases heq
      refine List.forall_mem_cons.mpr ⟨?_, ofChars?_angleFree hrest hmore⟩
      simp [isAngleFree, hc]

end FormatItem

namespace Instant
variable (t : Instant)

theorem two_angleFree (n : Nat) (padding : Padding) : AngleFree (two n padding).toList := by
  cases padding with
  | none => exact .nat n
  | zero => exact padded_angleFree 2 n
  | blank =>
    simp only [two]
    split
    · exact AngleFree.concat (a := " ") (by decide) (.nat n)
    · exact .nat n

theorem wide_angleFree (width : Nat) (n : Int) (padding : Padding) (plus : Bool) :
    AngleFree (wide width n padding plus).toList := by
  have hfill : ∀ c, c ≠ '<' ∧ c ≠ '>' → ∀ n, AngleFree (List.replicate n c) := fun c hc => .replicate hc
  have hsign : AngleFree (if n < 0 then "-" else if plus then "+" else "").toList := by
    split
    · decide
    · cases plus <;> decide
  unfold wide
  dsimp only
  generalize (if n < 0 then "-" else if plus then "+" else "") = sign at hsign ⊢
  cases padding with
  | none => exact hsign.concat (.nat _)
  | zero => exact (hsign.concat (by simpa using hfill '0' (by decide) _)).concat (.nat _)
  | blank => exact (AngleFree.concat (by simpa using hfill ' ' (by decide) _) hsign).concat (.nat _)

theorem numberText_angleFree (field : NumberField) (padding : Padding) :
    AngleFree (t.numberText field padding).toList := by
  cases field with
  | year | isoYear | ordinal | nanosecond | timestamp => exact wide_angleFree _ _ _ _
  | quarter | daysFromSunday | dayFromMonday => exact .nat _
  | _ => exact two_angleFree _ _

theorem fractionText_angleFree : AngleFree t.fractionText.toList := by
  have hpoint : ∀ width n, AngleFree ("." ++ padded width n).toList := fun width n =>
    AngleFree.concat (a := ".") (by decide) (padded_angleFree width n)
  unfold fractionText
  dsimp only
  split
  · decide
  · split
    · exact hpoint _ _
    · split <;> exact hpoint _ _

theorem text_angleFree : AngleFree t.text.toList := by
  simp [text, yearText_angleFree, padded_angleFree, fractionText_angleFree]

theorem getD_angleFree {names : List String} (h : ∀ name ∈ names, AngleFree name.toList) (i : Nat) :
    AngleFree (names.getD i "").toList := by
  rw [List.getD_eq_getElem?_getD]
  cases hname : names[i]? with
  | none => decide
  | some name => exact h name (List.mem_of_getElem? hname)

theorem short_angleFree {name : String} (h : AngleFree name.toList) : AngleFree (short name).toList := by
  simpa [short] using h.take 3

theorem fieldText_angleFree {field : TextField} (h : (FormatItem.text field).isAngleFree = true) :
    AngleFree (t.fieldText field).toList := by
  have hmonths : ∀ name ∈ monthNames, AngleFree name.toList := by decide
  have hweekdays : ∀ name ∈ weekdayNames, AngleFree name.toList := by decide
  cases field with
  | shortMonth => exact short_angleFree (getD_angleFree hmonths _)
  | longMonth => exact getD_angleFree hmonths _
  | shortWeekday => exact short_angleFree (getD_angleFree hweekdays _)
  | longWeekday => exact getD_angleFree hweekdays _
  | lowerHalf =>
    show AngleFree (if t.hour < 12 then "am" else "pm").toList
    split <;> decide
  | upperHalf =>
    show AngleFree (if t.hour < 12 then "AM" else "PM").toList
    split <;> decide
  | fraction => exact t.fractionText_angleFree
  | fractionDigits count point =>
    have hpoint : AngleFree (if point then "." else "").toList := by cases point <;> decide
    exact hpoint.concat (padded_angleFree _ _)
  | zone => exact (by decide : AngleFree "UTC".toList)
  | offset separator parts =>
    have hseparator : AngleFree separator.toList := of_decide_eq_true h
    have hzeros : ∀ zeros ∈ List.map String.toList (List.replicate parts "00"), AngleFree zeros := by
      intro zeros hmem
      rw [List.map_replicate] at hmem
      rw [(List.mem_replicate.mp hmem).2]
      decide
    refine AngleFree.concat (a := "+") (by decide) ?_
    rw [String.toList_intercalate]
    exact .intercalate hseparator hzeros
  | fullInstant => exact t.text_angleFree

theorem itemText_angleFree {item : FormatItem} (h : item.isAngleFree = true) : AngleFree (t.itemText item).toList := by
  cases item with
  | literal text => exact of_decide_eq_true h
  | number field padding => exact t.numberText_angleFree field padding
  | text field => exact t.fieldText_angleFree h

/-- A date is written without angles if there are none in its format. -/
theorem format?_angleFree {format text : String} (hformat : AngleFree format.toList) (h : t.format? format = some text) :
    AngleFree text.toList := by
  obtain ⟨items, hitems, rfl⟩ := Option.map_eq_some_iff.mp h
  refine .join fun s hs => ?_
  obtain ⟨item, hitem, rfl⟩ := List.mem_map.mp hs
  exact t.itemText_angleFree (FormatItem.ofChars?_angleFree hformat hitems item hitem)

end Instant
end Calendar
end PromptForm
