import PromptForm.Pass.Walk
import PromptForm.Proofs.Text.Parts
import PromptForm.Proofs.Text.Pieces

/-! # Comma lists

A list of texts prints as a comma list, and a comma list is read in two places: as the answer to an input with several
choices, and as what a loop runs over. Both read the texts back that were printed, as long as each of them can stand as a part
(`Text.commaParts_display`), and the parts of any text can (`Text.isPart_of_mem`). So a comma list means the same wherever it
stands (`Requirement.commaLists_agree`). -/

namespace PromptForm

namespace Text
variable {s x : String}

/-- A text that can stand as a part of a comma list. -/
structure IsPart (s : String) : Prop where
  nonempty : s ≠ ""
  /-- No blanks stand at its ends. -/
  trimmed : trimmed s = s
  uncut : ',' ∉ s.toList

theorem trim_toList (h : trimmed s = s) : trim s.toList = s.toList := by
  rw [← String.toList_ofList (l := trim s.toList)]
  exact congrArg String.toList h

theorem commaParts_of_isPart (h : IsPart s) : commaParts s = [s] := by
  have hcommas : ∀ c ∈ s.toList, (c == ',') = false := fun c hc => beq_false_of_ne fun heq => h.uncut (heq ▸ hc)
  have hnonempty : s.toList ≠ [] := fun hnil => h.nonempty (String.toList_eq_nil_iff.mp hnil)
  simp [commaParts, splitBy_of_none hcommas, trim_toList h.trimmed, hnonempty]

/-- The parts of a comma list are those before a comma and those after it and a blank. -/
theorem commaParts_append (s t : String) : commaParts (s ++ ", " ++ t) = commaParts s ++ commaParts t := by
  have hlist : (s ++ ", " ++ t).toList = s.toList ++ ',' :: ' ' :: t.toList := by simp
  have hcut : ∀ c, isBlank c = true → (c == ',') = false := fun c hc => beq_false_of_ne fun heq => by
    rw [heq] at hc
    exact absurd hc (by decide)
  rw [commaParts, hlist, splitBy_append rfl, List.map_append, trim_splitBy_cons hcut (by decide), List.filterMap_append]
  rfl

theorem isPart_of_mem (h : x ∈ commaParts s) : IsPart x := by
  obtain ⟨part, hpart, hx⟩ := List.mem_filterMap.mp h
  obtain ⟨piece, hpiece, rfl⟩ := List.mem_map.mp hpart
  split at hx
  · cases hx
  · rename_i hnonempty
    cases hx
    refine ⟨fun hnil => hnonempty (by simpa using hnil), ?_, fun hcomma => ?_⟩
    · rw [Text.trimmed, String.toList_ofList, trim_trim]
    · rw [String.toList_ofList] at hcomma
      have hinside : trim piece <:+: piece := trim_infix piece
      exact absurd (not_of_mem_splitBy hpiece ',' (hinside.subset hcomma)) (by decide)

/-- The parts of a printed list are its texts. -/
theorem commaParts_display : ∀ {xs : List String}, (∀ x ∈ xs, IsPart x) →
    commaParts (Value.list (xs.map .string)).display = xs
  | [], _ => by decide +kernel
  | [x], h => commaParts_of_isPart (h x List.mem_cons_self)
  | x :: y :: xs, h => by
    obtain ⟨hx, hxs⟩ := List.forall_mem_cons.mp h
    have hrest := commaParts_display hxs
    simp only [Value.display, List.map_cons, Value.displayItems] at hrest ⊢
    rw [commaParts_append, commaParts_of_isPart hx, hrest, List.singleton_append]

end Text

/-- A loop makes one round for each of the items, in turn. -/
def Setting.RunsOver (s : Setting) (props : Fields) (scope : Scope) (items : List Value) : Prop :=
  ∀ (children : Scope → Nat → Draft → Draft) (sections : Nat) (d : Draft),
    s.intrinsic children .loop props scope sections d =
      rounds (fun inner => children inner sections) scope ((Fields.text? "as" props).getD "item")
        (Fields.text? "index" props) 0 items d

section Loops
variable {s : Setting} {props : Fields} {scope : Scope} {name : String}
  (hname : Fields.get? "items" props = some (.string name))
include hname

theorem Setting.runsOver_commaList {text : String} (h : scope.get (Text.trimmed name) = .string text) :
    s.RunsOver props scope (Value.ofCommaList text) := fun children sections d => by
  simp only [intrinsic, hname, loopItems, h]

theorem Setting.runsOver_list {items : List Value} (h : scope.get (Text.trimmed name) = .list items) :
    s.RunsOver props scope items := fun children sections d => by
  simp only [intrinsic, hname, loopItems, h]

end Loops

namespace Requirement

theorem coerce_commaList (text : String) : coerce .multiSelect (.string text) = .ok (.list (Value.ofCommaList text)) := rfl

/-- A list of texts that can stand as parts is read back from what it prints, as an answer with several choices and by a
    loop over a name, which then runs over the texts as if the name meant the list. Whatever text is answered, its parts
    are read back from what they print, and a loop over a name with that text runs over them. -/
theorem commaLists_agree :
    (∀ xs : List String, (∀ x ∈ xs, Text.IsPart x) →
      let list := Value.list (xs.map .string)
      coerce .multiSelect (.string list.display) = .ok list ∧
      ∀ (s : Setting) (props : Fields) (scope : Scope) (name : String), Fields.get? "items" props = some (.string name) →
        scope.get (Text.trimmed name) = .string list.display ∨ scope.get (Text.trimmed name) = list →
          s.RunsOver props scope (xs.map .string)) ∧
    ∀ text : String, ∃ parts : List Value,
      coerce .multiSelect (.string text) = .ok (.list parts) ∧
      coerce .multiSelect (.string (Value.list parts).display) = .ok (.list parts) ∧
      ∀ (s : Setting) (props : Fields) (scope : Scope) (name : String), Fields.get? "items" props = some (.string name) →
        scope.get (Text.trimmed name) = .string text → s.RunsOver props scope parts := by
  have hread : ∀ xs : List String, (∀ x ∈ xs, Text.IsPart x) →
      Value.ofCommaList (Value.list (xs.map .string)).display = xs.map .string := fun xs hxs => by
    rw [Value.ofCommaList, Text.commaParts_display hxs]
  refine ⟨fun xs hxs => ⟨?_, fun s props scope name hname hmeans => ?_⟩, fun text => ?_⟩
  · rw [coerce_commaList, hread xs hxs]
  · rcases hmeans with htext | hlist
    · rw [← hread xs hxs]
      exact Setting.runsOver_commaList hname htext
    · exact Setting.runsOver_list hname hlist
  · -- The parts of a text can stand as parts, so what was shown of lists applies to them.
    refine ⟨Value.ofCommaList text, coerce_commaList text, ?_, fun s props scope name hname => Setting.runsOver_commaList hname⟩
    have hagain : Value.ofCommaList (Value.list (Value.ofCommaList text)).display = Value.ofCommaList text :=
      hread (Text.commaParts text) fun _ => Text.isPart_of_mem
    rw [coerce_commaList, hagain]

/-- A part may hold blanks inside, and the loop may name what it runs over with blanks around. -/
theorem commaLists_agree_topics :
    (∀ x ∈ ["green tea", "mate"], Text.IsPart x) ∧
    coerce .multiSelect (.string "green tea, mate") = .ok (.list [.string "green tea", .string "mate"]) ∧
    ∀ s : Setting, s.RunsOver [("items", .string " topics ")] ⟨[("topics", .string "green tea, mate")], []⟩
      [.string "green tea", .string "mate"] := by
  have hparts : ∀ x ∈ ["green tea", "mate"], Text.IsPart x := by
    intro x hx
    rcases List.mem_pair.mp hx with rfl | rfl
    · exact ⟨by decide, by decide +kernel, by decide⟩
    · exact ⟨by decide, by decide +kernel, by decide⟩
  obtain ⟨hanswer, hloop⟩ := commaLists_agree.1 ["green tea", "mate"] hparts
  exact ⟨hparts, hanswer, fun s => hloop s _ _ " topics " (by decide +kernel) (.inl (by decide +kernel))⟩

end Requirement
end PromptForm
