import PromptForm.Proofs.Component.Interpolation

/-! # List items that components make

A step or a criterion stands for a list item. Its number, if it has one that can be read as a count, is the marker of
the item, and a marker is written before the first line of what the item holds. -/

namespace PromptForm

/-! ### Text -/

theorem Text.lines_ne_nil {cs : List Char} (h : cs ≠ []) : lines cs ≠ [] := by
  have hrest : ∀ pieces, pieces ≠ [] → ∀ piece, linesOf (piece :: pieces) ≠ [] := fun pieces hpieces piece => by
    cases pieces with
    | nil => exact absurd rfl hpieces
    | cons next pieces => simp [linesOf]
  cases cs with
  | nil => exact absurd rfl h
  | cons c cs =>
    unfold lines splitBy
    split
    · exact hrest _ (splitBy_ne_nil _ cs) []
    · split
      · simp [linesOf]
      · rename_i piece pieces _
        cases pieces with
        | nil => simp [linesOf]
        | cons next pieces => exact hrest _ (List.cons_ne_nil next pieces) _

/-- An item that is not blank begins on a line of its own with its marker and a blank. -/
theorem Output.itemText_marker (indent marker out : List Char) {body : List Char} (h : Text.trim body ≠ []) :
    ∃ rest, itemText indent marker out body = freshLine out ++ marker ++ ' ' :: rest := by
  cases hlines : Text.lines (Text.trim body) with
  | nil => exact absurd hlines (Text.lines_ne_nil h)
  | cons first rest => exact ⟨first ++ '\n' :: indented indent rest, by simp [itemText, hlines]⟩

/-! ### Elements -/

/-- The tags of the components that stand for an item. -/
def listTags : List String := ["Step", "Criterion"]

def Handler.isListItem : Handler → Bool
  | .component .listItem => true
  | _ => false

theorem Registry.standard_listItem {tag : String} (htag : tag ∈ listTags) :
    standard.handler? tag = some (.component .listItem) := by
  have hall : listTags.all (fun tag => (standard.handler? tag).any Handler.isListItem) = true := by decide +kernel
  have hitem := List.all_eq_true.mp hall tag htag
  cases hhandler : standard.handler? tag with
  | none =>
    rw [hhandler] at hitem
    cases hitem
  | some handler =>
    rw [hhandler, Option.any_some] at hitem
    unfold Handler.isListItem at hitem
    split at hitem
    · rfl
    · cases hitem

theorem Surroundings.handles_listItem {s : Surroundings} {scope : Scope} {tag : String} {props expanded : Fields}
    (hs : s.registry = Registry.standard) (htag : tag ∈ listTags) (hprops : s.expandProps scope props = .ok expanded)
    (hfits : Component.listItem.schema.violations (.object expanded) = []) :
    s.Handles tag props scope expanded (.component .listItem) where
  decided := by
    simp [isWaiting, Registry.asksInput, hs, Registry.standard_listItem htag, Component.asksInput]
  props := hprops
  handler := by
    simp [Registry.resolve, hs, Registry.standard_listItem htag, Handler.schema, hfits]

namespace Setting
variable {s : Setting} {scope : Scope} {tag marker : String} {props expanded : Fields}

/-- A walk through nodes whose text becomes an item. -/
def item (s : Setting) (room : Nat) (marker : String) (scope : Scope) (sections : Nat) (nodes : List Node) :
    Draft → Draft :=
  collected (s.walkAll (s.element room) scope sections nodes) (Output.itemText s.ctx.indent.toList marker.toList)

/-- The marker of an item by its props. -/
def markerOf (expanded : Fields) : String := (Fields.text? "marker" expanded).getD "-"

theorem element_handlesItem (h : s.Handles Intrinsic.item.tag props scope expanded (.intrinsic .item)) (room sections : Nat)
    (children : List Node) (d : Draft) :
    s.element (room + 1) Intrinsic.item.tag props children scope sections d =
      s.item room (markerOf expanded) scope sections children d :=
  element_intrinsic h room sections d

/-- A marker that is no template stands before the item as it is. -/
theorem element_item (hs : s.registry = Registry.standard) (hmarker : Template.isMarked marker = false)
    (room sections : Nat) (children : List Node) (d : Draft) :
    s.element (room + 1) Intrinsic.item.tag [("marker", .string marker)] children scope sections d =
      s.item room marker scope sections children d := by
  have hprops : s.expandProps scope [("marker", .string marker)] = .ok [("marker", .string marker)] :=
    Fields.Plain.expandProps (.cons (Value.plain_string.mpr hmarker) Fields.plain_nil)
  have hfits : Intrinsic.item.schema.violations (.object [("marker", .string marker)]) = [] := by
    simp [Intrinsic.schema, Schema.closedObject, Schema.violations, Schema.violationsOfAll, Schema.violationsOfKnown,
      Fields.get?, Schema.string, Schema.hasType]
  exact element_handlesItem (Surroundings.handles_intrinsic hs hprops hfits) room sections children d

/-- A step or a criterion with a count as its number is an item that is marked with the number and a dot. -/
theorem element_listItem (hs : s.registry = Registry.standard)
    (h : s.Handles tag props scope expanded (.component .listItem)) {n : Nat}
    (hn : Fields.count? "number" expanded = some n) (room sections : Nat) (children : List Node) (d : Draft) :
    s.element (room + 2) tag props children scope sections d =
      s.item room (toString n ++ ".") scope sections children d := by
  have hitem : s.element (room + 2) tag props children scope sections d =
      s.element (room + 1) Intrinsic.item.tag [("marker", .string (toString n ++ "."))] children scope sections d := by
    rw [element_rendered h rfl rfl, Component.render, Component.renderListItem, hn]
    rfl
  rw [hitem]
  exact element_item hs (Component.number_plain n) room sections children d

/-- Where it holds more than blanks, an item adds to a text a line that begins with its marker and a blank. -/
theorem item_text {room sections : Nat} {nodes : List Node} {d : Draft}
    (h : Text.trim (s.walkAll (s.element room) scope sections nodes { d with text := [] }).text ≠ []) :
    ∃ rest, (s.item room marker scope sections nodes d).text =
      d.text ++ (Output.freshLine d.text ++ marker.toList ++ ' ' :: rest) := by
  obtain ⟨rest, hrest⟩ := Output.itemText_marker s.ctx.indent.toList marker.toList d.text h
  exact ⟨rest, congrArg (d.text ++ ·) hrest⟩

end Setting
end PromptForm
