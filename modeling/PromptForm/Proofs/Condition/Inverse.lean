import PromptForm.Proofs.Condition.Reading

/-! # Reading inverts writing

A condition is trimmed and its notation told by its first character; what is left is a formula that takes the whole
text. Every way to write a formula gives the formula back (`ofText_written`). The one shape of formula that is
excluded is a connective of nothing: it can be written as a call without arguments, which the reader refuses. -/

namespace PromptForm

theorem Formula.tokens_ne_nil (dialect : Dialect) (f : Formula) : f.tokens dialect ≠ [] := by
  have hconnective : ∀ (items : List Formula) (separator : Condition.Mark) (operation : Condition.Operation)
      (k : Nat), (if isInfix dialect items then separated dialect separator k items
        else called operation (separated dialect .comma 0 items)) ≠ [] := by
    intro items separator operation k
    split
    · next hinfix =>
      match items with
      | [] | [_] => cases dialect <;> simp [isInfix] at hinfix
      | f :: g :: fs => simp [Condition.separated_cons_cons]
    · simp [called]
  cases f with
  | conjunction items => exact hconnective items .conjunction .conjunction 2
  | disjunction items => exact hconnective items .disjunction .disjunction 1
  | negation f => cases dialect <;> simp [tokens, called]
  | _ => simp [tokens, called]

namespace Condition
open Reader

variable {dialect : Dialect} {cs rest : List Char} {tokens : List Token} {f : Formula}

/-! ### Trimming -/

theorem Spelled.core (h : Spelled dialect tokens cs rest) :
    ∃ core, cs = core ++ rest ∧ Spelled dialect tokens core [] := by
  induction h with
  | nil => exact ⟨[], rfl, .nil []⟩
  | @cons token tokens spelling cs rest blanks hblanks htoken _ ih =>
    obtain ⟨core, rfl, hcore⟩ := ih
    exact ⟨blanks ++ (spelling ++ core), by simp, .cons blanks hblanks htoken hcore⟩

theorem Spelled.exists_last (h : Spelled dialect tokens cs rest) (hne : tokens ≠ []) (hrest : rest = []) :
    ∃ front c, cs = front ++ [c] ∧ Text.isBlank c = false := by
  induction h with
  | nil => exact absurd rfl hne
  | @cons token tokens spelling cs rest blanks _ htoken htokens ih =>
    cases htokens with
    | nil =>
      subst hrest
      obtain ⟨front, c, rfl, hc⟩ := htoken.exists_last
      exact ⟨blanks ++ front, c, by simp, hc⟩
    | cons =>
      obtain ⟨front, c, hcs, hc⟩ := ih (List.cons_ne_nil _ _) hrest
      exact ⟨blanks ++ (spelling ++ front), c, by simp [hcs], hc⟩

theorem trimEnd_append {tail : List Char} (htail : ∀ c ∈ tail, Text.isBlank c = true) {front : List Char} {c : Char}
    (hc : Text.isBlank c = false) : Text.trimEnd (front ++ [c] ++ tail) = front ++ [c] := by
  have hreverse : ∀ c ∈ tail.reverse, Text.isBlank c = true := fun c hmem => htail c (List.mem_reverse.mp hmem)
  simp [Text.trimEnd, List.dropWhile_append_of_pos hreverse, hc]

/-- Trimming leaves the first token in front, and no blanks behind the last. -/
theorem Spelled.trim {token : Token} {blanks : List Char} (hblanks : ∀ c ∈ blanks, Text.isBlank c = true)
    (h : Spelled dialect (token :: tokens) cs blanks) : ∃ spelling body, Spelling dialect token spelling ∧
      Spelled dialect tokens body [] ∧ Text.trim cs = spelling ++ body := by
  obtain ⟨core, rfl, hcore⟩ := h.core
  cases hcore with
  | @cons _ _ spelling body _ before hbefore htoken htokens =>
  refine ⟨spelling, body, htoken, htokens, ?_⟩
  have hstart : Text.trimStart (before ++ (spelling ++ body) ++ blanks) = spelling ++ body ++ blanks := by
    obtain ⟨c, tail, rfl, hc⟩ := htoken.exists_first
    simp [Text.trimStart, List.dropWhile_append_of_pos hbefore, hc]
  have hwhole : Spelled dialect (token :: tokens) (spelling ++ body) [] :=
    Spelled.cons [] (fun _ hc => absurd hc List.not_mem_nil) htoken htokens
  obtain ⟨front, c, hlast, hc⟩ := hwhole.exists_last (List.cons_ne_nil _ _) rfl
  rw [Text.trim, hstart, hlast, trimEnd_append hblanks hc]

/-! ### Whole conditions -/

theorem reads_formula (hfilled : f.Filled) (hnames : ∀ path ∈ f.names, IsName dialect path)
    (h : Spelled dialect (f.tokens dialect) cs []) :
    Reads (Reader.formula dialect (operand dialect (cs.length + 1))) f cs [] := by
  have hread : ReadAt dialect 0 f (f.tokens dialect) := (readAt_tokens f hfilled hnames).looser (Nat.zero_le _)
  have hlength := h.length_le
  exact hread.formula (Nat.lt_succ_of_le hlength) h fun c tail hc => nomatch hc

theorem whole_spelled (hfilled : f.Filled) (hnames : ∀ path ∈ f.names, IsName dialect path)
    (h : Spelled dialect (f.tokens dialect) cs []) : whole dialect cs = .ok f := by
  obtain ⟨left, hread, hskip⟩ := reads_formula hfilled hnames h
  have hend : skip left = [] := hskip
  simp [whole, hread, hend]

/-- The first character tells the notation: no expression begins with an equals sign. -/
theorem bodyOf_written (hfilled : f.Filled) (hnames : ∀ path ∈ f.names, IsName dialect path)
    (h : Written dialect f cs) :
    ∃ body, bodyOf cs = (dialect, body) ∧ Spelled dialect (f.tokens dialect) body [] := by
  obtain ⟨blanks, hblanks, hspelled⟩ := h
  cases dialect with
  | formula =>
    obtain ⟨spelling, body, htoken, hbody, htrim⟩ := Spelled.trim hblanks hspelled
    cases htoken
    exact ⟨body, by simp [bodyOf, htrim, Mark.sign], hbody⟩
  | expression =>
    obtain ⟨token, tokens, htokens⟩ := List.exists_cons_of_ne_nil (Formula.tokens_ne_nil .expression f)
    have hspelled : Spelled .expression (token :: tokens) cs blanks := htokens ▸ hspelled
    obtain ⟨spelling, body, htoken, hbody, htrim⟩ := Spelled.trim hblanks hspelled
    have hwhole : Spelled .expression (f.tokens .expression) (spelling ++ body) [] :=
      htokens ▸ Spelled.cons [] (fun _ hc => absurd hc List.not_mem_nil) htoken hbody
    refine ⟨spelling ++ body, ?_, hwhole⟩
    unfold bodyOf
    rw [htrim]
    split
    · next rest heq =>
      obtain ⟨left, hread, hskip⟩ := reads_formula hfilled hnames hwhole
      rw [formula_eq_level, heq] at hread
      exact absurd (show '=' ∈ _ by decide) (Reads.begins ⟨left, hread, hskip⟩)
    · rfl

/-- A formula is read back from every text that writes it. -/
theorem ofText_written (hfilled : f.Filled) (hnames : ∀ path ∈ f.names, IsName dialect path)
    (h : Written dialect f cs) : ofText (String.ofList cs) = .ok ⟨String.ofList cs, f⟩ := by
  obtain ⟨body, hbody, hspelled⟩ := bodyOf_written hfilled hnames h
  simp [ofText, hbody, whole_spelled hfilled hnames hspelled]

/-- Letter case, quotes, escapes and blanks of several kinds in one formula. -/
theorem ofText_written_mixed :
    ofText "\u3000=oR(Not ( isblank\t(item.name)),'it\\'s' <> x_1 ,tRue )\n" =
      .ok ⟨"\u3000=oR(Not ( isblank\t(item.name)),'it\\'s' <> x_1 ,tRue )\n",
        .disjunction [.negation (.blank (.name "item.name")),
          .compare .ne (.literal (.string "it's")) (.name "x_1"), .literal (.bool true)]⟩ := by
  have hitem : IsName .formula "item.name" :=
    { word := ⟨'i', "tem.name".toList, by decide +kernel, by decide +kernel, List.all_eq_true.mp (by decide +kernel)⟩
      last := by decide +kernel
      dots := by decide +kernel
      keyword := by unfold IsKeyword; decide +kernel }
  have hx : IsName .formula "x_1" :=
    { word := ⟨'x', "_1".toList, by decide +kernel, by decide +kernel, List.all_eq_true.mp (by decide +kernel)⟩
      last := by decide +kernel
      dots := by decide +kernel
      keyword := by unfold IsKeyword; decide +kernel }
  have hblank : ∀ {blank : Char}, Text.isBlank blank = true → ∀ c ∈ [blank], Text.isBlank c = true := fun h =>
    List.forall_mem_singleton.mpr h
  obtain ⟨cs, htext, hspelled⟩ : ∃ cs,
      String.ofList cs = "\u3000=oR(Not ( isblank\t(item.name)),'it\\'s' <> x_1 ,tRue )\n" ∧
      Spelled .formula (Condition.tokens .formula (.disjunction [.negation (.blank (.name "item.name")),
        .compare .ne (.literal (.string "it's")) (.name "x_1"), .literal (.bool true)])) cs ['\n'] :=
    ⟨_, by decide +kernel,
      .cons ['\u3000'] (hblank rfl) (.mark .formula) <|
      .cons [] nofun (.call .disjunction ['o', 'R'] (by decide)) <|
      .cons [] nofun (.mark .opening) <|
      .cons [] nofun (.call .negation ['N', 'o', 't'] (by decide)) <|
      .cons [' '] (hblank rfl) (.mark .opening) <|
      .cons [' '] (hblank rfl) (.call .blank ['i', 's', 'b', 'l', 'a', 'n', 'k'] (by decide)) <|
      .cons ['\t'] (hblank rfl) (.mark .opening) <|
      .cons [] nofun (.name hitem.word) <|
      .cons [] nofun (.mark .closing) <|
      .cons [] nofun (.mark .closing) <|
      .cons [] nofun (.mark .comma) <|
      .cons [] nofun (.text (.inr rfl) "it's") <|
      .cons [' '] (hblank rfl) (.mark (.comparison .ne)) <|
      .cons [' '] (hblank rfl) (.name hx.word) <|
      .cons [' '] (hblank rfl) (.mark .comma) <|
      .cons [] nofun (.truthAnyCase ['t', 'R', 'u', 'e'] rfl (by decide)) <|
      .cons [' '] (hblank rfl) (.mark .closing) <|
      .nil ['\n']⟩
  rw [← htext]
  exact ofText_written (by simp [Formula.Filled, Formula.AllFilled])
    (by simp [Formula.names, Formula.namesOf, hitem, hx]) ⟨['\n'], hblank rfl, hspelled⟩

/-- A connective of nothing can be written but is not read. -/
theorem ofText_written_unfilled : ¬∀ (dialect : Dialect) (f : Formula) (cs : List Char),
    (∀ path ∈ f.names, IsName dialect path) → Written dialect f cs →
    ofText (String.ofList cs) = .ok ⟨String.ofList cs, f⟩ := by
  intro h
  have hnone : ∀ c ∈ ([] : List Char), Text.isBlank c = true := fun c hc => absurd hc List.not_mem_nil
  have hwritten : Written .expression (.conjunction []) ['A', 'N', 'D', '(', ')'] :=
    ⟨[], hnone, .cons [] hnone (.call .conjunction ['A', 'N', 'D'] (by decide)) <|
      .cons [] hnone (.mark .opening) <| .cons [] hnone (.mark .closing) (.nil [])⟩
  have hread := h .expression (.conjunction []) _ (fun path hpath => absurd hpath List.not_mem_nil) hwritten
  have hrefused : (ofText (String.ofList ['A', 'N', 'D', '(', ')'])).toBool = false := by decide +kernel
  rw [hread] at hrefused
  cases hrefused

end Condition
end PromptForm
