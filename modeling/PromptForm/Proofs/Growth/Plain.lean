import PromptForm.Proofs.Growth.Halting

/-! # Plain values

A value is plain if no text of it is read as a template. Plain props expand to themselves
(`Fields.Plain.expandProps`); of other props it is known that each expands on its own
(`Surroundings.get?_expandProps`), and that objects stay as they are. -/

namespace PromptForm

/-! ### Plain values -/

namespace Text

theorem contains_of_not_mem {c : Char} {needle : List Char} : ∀ {cs : List Char}, c ∉ cs →
    contains cs (c :: needle) = false
  | [], _ => rfl
  | d :: cs, h => by
    obtain ⟨hne, hcs⟩ : c ≠ d ∧ c ∉ cs := by simpa using h
    simp [contains, afterPrefix?, hne, contains_of_not_mem hcs]

end Text

theorem Template.isMarked_of_not_mem {s : String} (h : '\x7b' ∉ s.toList) : isMarked s = false := by
  simp [isMarked, Text.contains_of_not_mem h]

/-- No text of the value is a template. -/
def Value.Plain (v : Value) : Prop := ∀ text ∈ v.texts, Template.isMarked text = false

theorem Value.plain_string {text : String} : (Value.string text).Plain ↔ Template.isMarked text = false :=
  List.forall_mem_singleton

theorem mapM_eq_self {α ε : Type} {f : α → Except ε α} {xs : List α} (h : ∀ x ∈ xs, f x = .ok x) :
    xs.mapM f = .ok xs := by
  have hpure : xs.mapM (fun x => (pure (id x) : Except ε α)) = pure (xs.map id) := List.mapM_pure
  rw [List.map_id] at hpure
  exact (mapM_congr h).trans hpure

/-- A plain value expands to itself. -/
theorem Surroundings.expandValue_of_plain {s : Surroundings} {scope : Scope} {v : Value} (h : v.Plain) :
    s.expandValue scope v = .ok v := by
  have htext : ∀ text ∈ v.texts, s.expand scope text = .ok text := fun text htext =>
    Template.expand_of_not_marked _ (h text htext)
  cases v with
  | string text => simp only [expandValue, expandText, htext text (List.mem_singleton_self text), Except.map]
  | list items =>
    have hitems : items.mapM (s.expandText scope) = .ok items := mapM_eq_self fun item hitem => by
      cases item with
      | string text =>
        have hmem : text ∈ (Value.list items).texts := List.mem_filterMap.mpr ⟨.string text, hitem, rfl⟩
        simp only [expandText, htext text hmem, Except.map]
      | _ => rfl
    simp only [expandValue, hitems, Except.map]
  | _ => rfl

/-! ### Expanded props -/

namespace Surroundings
variable {s : Surroundings} {scope : Scope} {props expanded : Fields} {k : String} {v : Value}

/-- Nothing but an object expands to an object. -/
theorem object_of_expandValue {fields : Fields} (h : s.expandValue scope v = .ok (.object fields)) : v = .object fields := by
  cases v with
  | string text =>
    simp only [expandValue, expandText] at h
    cases hexpand : s.expand scope text <;> rw [hexpand] at h <;> cases h
  | list items =>
    simp only [expandValue] at h
    cases hitems : items.mapM (s.expandText scope) <;> rw [hitems] at h <;> cases h
  | _ => cases h <;> rfl

theorem expandProps_cons (h : s.expandProps scope ((k, v) :: props) = .ok expanded) :
    ∃ w rest, s.expandValue scope v = .ok w ∧ s.expandProps scope props = .ok rest ∧ expanded = (k, w) :: rest := by
  have h : ((s.expandValue scope v).map (k, ·) >>= fun w => s.expandProps scope props >>= fun rest => pure (w :: rest)) =
      .ok expanded := by
    rw [← h, expandProps, expandProps, List.mapM_cons]
  cases hfirst : s.expandValue scope v with
  | error m =>
    rw [hfirst] at h
    cases h
  | ok w =>
    cases hrest : s.expandProps scope props with
    | error m =>
      rw [hfirst, hrest] at h
      cases h
    | ok rest =>
      rw [hfirst, hrest] at h
      cases h
      exact ⟨w, rest, rfl, rfl, rfl⟩

/-- Objects stay as they are. -/
theorem mem_of_mem_expandProps {fields : Fields} : ∀ {props expanded : Fields}, s.expandProps scope props = .ok expanded →
    (k, .object fields) ∈ expanded → (k, .object fields) ∈ props
  | [], _, h, hmem => by
    cases h
    cases hmem
  | (k', v') :: props, expanded, h, hmem => by
    obtain ⟨w, rest, hfirst, hrest, rfl⟩ := expandProps_cons h
    rcases List.mem_cons.mp hmem with heq | hmem
    · cases heq
      rw [object_of_expandValue hfirst]
      exact List.mem_cons_self
    · exact List.mem_cons_of_mem _ (mem_of_mem_expandProps hrest hmem)

/-- Under each name expanded props have what the prop of this name expands to. -/
theorem get?_expandProps : ∀ {props expanded : Fields}, s.expandProps scope props = .ok expanded →
    Fields.get? k props = some v → ∃ w, Fields.get? k expanded = some w ∧ s.expandValue scope v = .ok w
  | (k', v') :: props, expanded, h, hv => by
    obtain ⟨w, rest, hfirst, hrest, rfl⟩ := expandProps_cons h
    unfold Fields.get? at hv ⊢
    split at hv
    · rename_i hk
      cases hv
      exact ⟨w, if_pos hk, hfirst⟩
    · rename_i hk
      rw [if_neg hk]
      exact get?_expandProps hrest hv

end Surroundings

/-- All values are plain. -/
def Fields.Plain (props : Fields) : Prop := ∀ k v, (k, v) ∈ props → v.Plain

namespace Fields
variable {props : Fields} {k : String} {v : Value}

theorem Plain.expandProps {s : Surroundings} {scope : Scope} (h : Plain props) : s.expandProps scope props = .ok props :=
  mapM_eq_self fun (k, v) hprop => by simp only [Surroundings.expandValue_of_plain (h k v hprop), Except.map]

/-- No input waits that has a plain name. -/
theorem Plain.isWaiting {s : Surroundings} {scope : Scope} {tag : String} (h : Plain props) :
    s.isWaiting tag props scope = .ok false := by
  unfold Surroundings.isWaiting
  split
  · cases hname : get? "name" props with
    | none => rfl
    | some v =>
      cases v with
      | string text =>
        have htext := Value.plain_string.mp (h "name" _ (mem_of_get? hname))
        simp [Surroundings.isUndecided, Template.namesIn, htext, Except.map]
      | _ => rfl
  · rfl

theorem plain_nil : Plain [] := fun _ _ h => nomatch h

theorem Plain.cons (hv : v.Plain) (h : Plain props) : Plain ((k, v) :: props) := fun k' v' hmem => by
  rcases List.mem_cons.mp hmem with heq | hmem
  · cases heq
    exact hv
  · exact h k' v' hmem

theorem mem_of_text? {text : String} (h : text? k props = some text) : (k, .string text) ∈ props := by
  obtain ⟨v, hv, hstring⟩ := Option.bind_eq_some_iff.mp h
  cases v with
  | string t =>
    cases hstring
    exact mem_of_get? hv
  | _ => cases hstring

theorem mem_insert {kv : String × Value} : ∀ {fields : Fields}, kv ∈ insert k v fields → kv = (k, v) ∨ kv ∈ fields
  | [], h => .inl (List.mem_singleton.mp h)
  | (k', v') :: rest, h => by
    unfold insert at h
    split at h
    · exact (List.mem_cons.mp h).imp_right (List.mem_cons_of_mem _)
    · split at h
      · exact List.mem_cons.mp h
      · rcases List.mem_cons.mp h with heq | h
        · exact .inr (heq ▸ List.mem_cons_self)
        · exact (mem_insert h).imp_right (List.mem_cons_of_mem _)

end Fields

end PromptForm
