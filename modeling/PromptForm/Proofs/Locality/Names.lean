import PromptForm.Template.Reader

/-! # Names of expressions are words

Whatever the reader of expressions makes of some tokens, it names nothing that is not a word among them
(`Reader.expression_gives`). Every reader takes tokens from the front: `Gives` says that it keeps a property of all
words in what it reads and in what it leaves, and `Yields` says the same of one outcome, so that the readers are
gone through as they are put together. -/

namespace PromptForm.Template
variable {α β : Type} {P : String → Prop} {good : α → Prop} {good' : β → Prop}

/-- All words among the tokens have a property. -/
def Words (P : String → Prop) (ts : List Token) : Prop := ∀ w, Token.word w ∈ ts → P w

namespace Words
variable {t : Token} {w : String} {ts : List Token}

theorem tail (h : Words P (t :: ts)) : Words P ts := fun w hw => h w (List.mem_cons_of_mem t hw)

theorem head (h : Words P (.word w :: ts)) : P w := h w List.mem_cons_self

end Words

/-- What is read is good and what is left is as it should be, unless nothing is read. -/
def Yields {ρ : Type} (left : ρ → Prop) (good : α → Prop) (r : Option (α × ρ)) : Prop :=
  ∀ a rest, r = some (a, rest) → good a ∧ left rest

namespace Yields
variable {ρ : Type} {left : ρ → Prop}

theorem none : Yields left good none := nofun

theorem some {a : α} {rest : ρ} (ha : good a) (hrest : left rest) : Yields left good (some (a, rest)) := by
  rintro _ _ ⟨⟩
  exact ⟨ha, hrest⟩

theorem bind {r : Option (α × ρ)} {f : α × ρ → Option (β × ρ)} (hr : Yields left good r)
    (hf : ∀ a rest, good a → left rest → Yields left good' (f (a, rest))) : Yields left good' (r >>= f) := by
  match r, hr with
  | .none, _ => exact none
  | .some (a, rest), hr =>
    obtain ⟨ha, hrest⟩ := hr a rest rfl
    exact hf a rest ha hrest

theorem map {r : Option (α × ρ)} {f : α × ρ → β × ρ} (hr : Yields left good r)
    (hf : ∀ a rest, good a → left rest → good' (f (a, rest)).1 ∧ left (f (a, rest)).2) : Yields left good' (r.map f) := by
  match r, hr with
  | .none, _ => exact none
  | .some (a, rest), hr =>
    obtain ⟨ha, hrest⟩ := hr a rest rfl
    exact some (hf a rest ha hrest).1 (hf a rest ha hrest).2

/-- Going on behind a mark or a keyword. -/
theorem behind {r : Option ρ} {f : ρ → Option (β × ρ)} (hr : ∀ rest, r = .some rest → left rest)
    (hf : ∀ rest, left rest → Yields left good' (f rest)) : Yields left good' (r >>= f) := by
  match r, hr with
  | .none, _ => exact none
  | .some rest, hr => exact hf rest (hr rest rfl)

end Yields

/-- All names of an expression have a property. -/
def Expr.Named (P : String → Prop) (e : Expr) : Prop := ∀ n ∈ e.names, P n

/-- A reader is sound for tokens whose words have the property. -/
def Gives (P : String → Prop) (good : α → Prop) (read : Reader α) : Prop := ∀ ts, Words P ts → Yields (Words P) good (read ts)

namespace Expr
variable {e k l r t y n : Expr} {es : List Expr} {named : List (String × Expr)} {entries : List (Expr × Expr)}

theorem named_items : ∀ {es : List Expr}, (∀ n ∈ namesOfItems es, P n) ↔ ∀ e ∈ es, e.Named P
  | [] => by simp [namesOfItems]
  | e :: es => by
    rw [List.forall_mem_cons, ← named_items]
    exact List.forall_mem_append

theorem named_named : ∀ {es : List (String × Expr)}, (∀ n ∈ namesOfNamed es, P n) ↔ ∀ e ∈ es, e.2.Named P
  | [] => by simp [namesOfNamed]
  | (_, e) :: es => by
    rw [List.forall_mem_cons, ← named_named]
    exact List.forall_mem_append

theorem named_entries : ∀ {es : List (Expr × Expr)},
    (∀ n ∈ namesOfEntries es, P n) ↔ ∀ e ∈ es, e.1.Named P ∧ e.2.Named P
  | [] => by simp [namesOfEntries]
  | (k, e) :: es => by
    rw [List.forall_mem_cons, ← named_entries]
    exact List.forall_mem_append.trans (and_congr_left' List.forall_mem_append)

theorem named_literal {d : Datum} : (literal d).Named P := nofun

theorem named_name {n : String} : (name n).Named P ↔ P n := List.forall_mem_singleton

theorem named_list : (list es).Named P ↔ ∀ e ∈ es, e.Named P := named_items

theorem named_map : (map entries).Named P ↔ ∀ e ∈ entries, e.1.Named P ∧ e.2.Named P := named_entries

theorem named_binary {op : Operator} : (binary op l r).Named P ↔ l.Named P ∧ r.Named P := List.forall_mem_append

theorem named_both : (both l r).Named P ↔ l.Named P ∧ r.Named P := List.forall_mem_append

theorem named_either : (either l r).Named P ↔ l.Named P ∧ r.Named P := List.forall_mem_append

theorem named_entry : (entry e k).Named P ↔ e.Named P ∧ k.Named P := List.forall_mem_append

theorem named_choice : (choice t y n).Named P ↔ (t.Named P ∧ y.Named P) ∧ n.Named P :=
  List.forall_mem_append.trans (and_congr_left' List.forall_mem_append)

theorem named_slice : (slice e l r t).Named P ↔ ((e.Named P ∧ l.Named P) ∧ r.Named P) ∧ t.Named P :=
  List.forall_mem_append.trans (and_congr_left' (List.forall_mem_append.trans (and_congr_left' List.forall_mem_append)))

/-- An expression applied to others. -/
theorem named_applied : (∀ n ∈ e.names ++ namesOfItems es, P n) ↔ e.Named P ∧ ∀ a ∈ es, a.Named P :=
  List.forall_mem_append.trans (and_congr_right' named_items)

theorem named_filter {label : String} :
    (filter e label es named).Named P ↔ (e.Named P ∧ ∀ a ∈ es, a.Named P) ∧ ∀ a ∈ named, a.2.Named P :=
  List.forall_mem_append.trans (and_congr named_applied named_named)

theorem named_call {f : String} :
    (call f es named).Named P ↔ P f ∧ (∀ a ∈ es, a.Named P) ∧ ∀ a ∈ named, a.2.Named P :=
  List.forall_mem_cons.trans (and_congr_right' (List.forall_mem_append.trans (and_congr named_items named_named)))

end Expr

namespace Reader

theorem mark?_words {s : String} {ts : List Token} (hw : Words P ts) : ∀ rest, mark? s ts = some rest → Words P rest := by
  intro rest h
  unfold mark? at h
  split at h
  · split at h
    · cases h
      exact hw.tail
    · cases h
  · cases h

theorem keyword?_words {s : String} {ts : List Token} (hw : Words P ts) : ∀ rest, keyword? s ts = some rest → Words P rest := by
  intro rest h
  unfold keyword? at h
  split at h
  · split at h
    · cases h
      exact hw.tail
    · cases h
  · cases h

theorem commaList_gives {close : String} {item : Reader α} (hitem : Gives P good item) :
    ∀ fuel, Gives P (fun as : List α => ∀ a ∈ as, good a) (commaList close item fuel)
  | 0, _, _ => Yields.none
  | fuel + 1, ts, hw => by
    unfold commaList
    split
    · rename_i hm
      exact Yields.some (by simp) (mark?_words hw _ hm)
    · refine (hitem ts hw).bind fun a rest ha hrest => ?_
      dsimp only
      split
      · rename_i hm
        exact Yields.some (by simpa using ha) (mark?_words hrest _ hm)
      · refine Yields.behind (mark?_words hrest) fun rest hrest => ?_
        refine (commaList_gives hitem fuel rest hrest).bind fun as rest has hrest => ?_
        exact Yields.some (List.forall_mem_cons.mpr ⟨ha, has⟩) hrest

theorem oneOf_gives {marks : List (String × Operator)} : Gives P (fun _ => True) (oneOf marks) := by
  intro ts hw
  unfold oneOf
  split
  · cases Fields.get? _ marks with
    | none => exact Yields.none
    | some op => exact Yields.some trivial hw.tail
  · exact Yields.none

theorem chain_gives {operator? : Reader Operator} {operand : Reader Expr} (hop : Gives P (fun _ => True) operator?)
    (hoperand : Gives P (Expr.Named P) operand) :
    ∀ fuel left, left.Named P → Gives P (Expr.Named P) (chain operator? operand fuel left)
  | 0, _, _, _, _ => Yields.none
  | fuel + 1, left, hleft, ts, hw => by
    unfold chain
    split
    · exact Yields.some hleft hw
    · rename_i hop'
      obtain ⟨-, hrest⟩ := hop ts hw _ _ hop'
      exact (hoperand _ hrest).bind fun right rest hright hrest =>
        chain_gives hop hoperand fuel _ (Expr.named_binary.mpr ⟨hleft, hright⟩) rest hrest

theorem chained_gives {operator? : Reader Operator} {operand : Reader Expr} (hop : Gives P (fun _ => True) operator?)
    (hoperand : Gives P (Expr.Named P) operand) : Gives P (Expr.Named P) (chained operator? operand) := fun ts hw =>
  (hoperand ts hw).bind fun left rest hleft hrest => chain_gives hop hoperand _ left hleft rest hrest

section Expression
variable {expression : Reader Expr}

theorem argument_gives (he : Gives P (Expr.Named P) expression) :
    Gives P (fun a : Option String × Expr => a.2.Named P) (argument expression) := by
  intro ts hw
  unfold argument
  split
  · exact (he _ hw.tail.tail).map fun e rest he hrest => ⟨he, hrest⟩
  · exact (he _ hw).map fun e rest he hrest => ⟨he, hrest⟩

theorem splitArguments_named : ∀ {as : List (Option String × Expr)} {args named},
    splitArguments as = some (args, named) → (∀ a ∈ as, a.2.Named P) →
      (∀ a ∈ args, a.Named P) ∧ ∀ a ∈ named, a.2.Named P
  | [], _, _, h, _ => by
    cases h
    simp
  | (none, e) :: as, args, named, h, hall => by
    obtain ⟨⟨args', named'⟩, hs, h⟩ := Option.map_eq_some_iff.mp h
    cases h
    obtain ⟨he, has⟩ := List.forall_mem_cons.mp hall
    obtain ⟨hargs, hnamed⟩ := splitArguments_named hs has
    exact ⟨List.forall_mem_cons.mpr ⟨he, hargs⟩, hnamed⟩
  | (some n, e) :: as, args, named, h, hall => by
    obtain ⟨⟨args', named'⟩, hs, h⟩ := Option.bind_eq_some_iff.mp h
    obtain ⟨he, has⟩ := List.forall_mem_cons.mp hall
    obtain ⟨-, hnamed⟩ := splitArguments_named hs has
    dsimp only at h
    split at h
    · cases h
      exact ⟨by simp, List.forall_mem_cons.mpr ⟨he, hnamed⟩⟩
    · cases h

theorem arguments_gives (he : Gives P (Expr.Named P) expression) :
    Gives P (fun as : List Expr × List (String × Expr) => (∀ a ∈ as.1, a.Named P) ∧ ∀ a ∈ as.2, a.2.Named P)
      (arguments expression) := fun ts hw =>
  (commaList_gives (argument_gives he) _ ts hw).bind fun as rest has hrest => by
    dsimp only
    cases hs : splitArguments as with
    | none => exact Yields.none
    | some split => exact Yields.some (splitArguments_named hs has) hrest

theorem mapEntry_gives (he : Gives P (Expr.Named P) expression) :
    Gives P (fun a : Expr × Expr => a.1.Named P ∧ a.2.Named P) (mapEntry expression) := fun ts hw =>
  (he ts hw).bind fun _ _ hk hrest => Yields.behind (mark?_words hrest) fun rest hrest =>
    (he rest hrest).bind fun _ _ he hrest => Yields.some ⟨hk, he⟩ hrest

theorem parenthesized_gives (he : Gives P (Expr.Named P) expression) :
    Gives P (Expr.Named P) (parenthesized expression) := by
  intro ts hw
  unfold parenthesized
  split
  · rename_i hm
    exact Yields.some (Expr.named_list.mpr nofun) (mark?_words hw _ hm)
  · refine (he ts hw).bind fun e rest hfirst hrest => ?_
    dsimp only
    split
    · rename_i hm
      exact Yields.some hfirst (mark?_words hrest _ hm)
    · refine Yields.behind (mark?_words hrest) fun rest hrest => ?_
      refine (commaList_gives he _ rest hrest).bind fun es rest hes hrest => Yields.some ?_ hrest
      exact Expr.named_list.mpr (List.forall_mem_cons.mpr ⟨hfirst, hes⟩)

theorem primary_gives (he : Gives P (Expr.Named P) expression) : Gives P (Expr.Named P) (primary expression) := by
  intro ts hw
  unfold primary
  split
  · split
    · exact Yields.some Expr.named_literal hw.tail
    · exact Yields.some (Expr.named_name.mpr hw.head) hw.tail
  · exact Yields.some Expr.named_literal hw.tail
  · exact Yields.some Expr.named_literal hw.tail
  · exact Yields.some Expr.named_literal hw.tail
  · exact parenthesized_gives he _ hw.tail
  · exact (commaList_gives he _ _ hw.tail).map fun es rest hes hrest => ⟨Expr.named_list.mpr hes, hrest⟩
  · exact (commaList_gives (mapEntry_gives he) _ _ hw.tail).map fun es rest hes hrest =>
      ⟨Expr.named_map.mpr hes, hrest⟩
  · exact Yields.none

theorem signed_gives (he : Gives P (Expr.Named P) expression) : Gives P (Expr.Named P) (signed expression) := by
  intro ts
  induction ts with
  | nil => exact primary_gives he []
  | cons t ts ih =>
    intro hw
    unfold signed
    split
    · rename_i heq
      cases heq
      exact (ih hw.tail).map fun e rest he hrest => ⟨he, hrest⟩
    · exact primary_gives he _ hw

theorem sliceBound_gives (he : Gives P (Expr.Named P) expression) {absent : Expr} (ha : absent.Named P) :
    Gives P (Expr.Named P) (sliceBound expression absent) := by
  intro ts hw
  unfold sliceBound
  split
  · exact Yields.some ha hw
  · exact Yields.some ha hw
  · exact he ts hw

theorem bracketed_gives (he : Gives P (Expr.Named P) expression) {e : Expr} (hleft : e.Named P) :
    Gives P (Expr.Named P) (bracketed expression e) := by
  intro ts hw
  have hbound : Gives P (Expr.Named P) (sliceBound expression (.literal .null)) :=
    sliceBound_gives he Expr.named_literal
  -- An index, a slice of two bounds or one of three: each bound is an expression or absent.
  refine (hbound ts hw).bind fun first rest hfirst hrest => ?_
  dsimp only
  split
  · refine Yields.behind (mark?_words hrest) fun rest hrest => ?_
    split
    · exact Yields.none
    · exact Yields.some (List.forall_mem_append.mpr ⟨hleft, hfirst⟩) hrest
  · rename_i hm
    refine (hbound _ (mark?_words hrest _ hm)).bind fun last rest hlast hrest => ?_
    dsimp only
    split
    · cases hm : mark? "]" rest with
      | none => exact Yields.none
      | some after =>
        exact Yields.some (Expr.named_slice.mpr ⟨⟨⟨hleft, hfirst⟩, hlast⟩, Expr.named_literal⟩) (mark?_words hrest _ hm)
    · rename_i hm
      refine (hbound _ (mark?_words hrest _ hm)).bind fun step rest hstep hrest => ?_
      dsimp only
      cases hm : mark? "]" rest with
      | none => exact Yields.none
      | some after =>
        exact Yields.some (Expr.named_slice.mpr ⟨⟨⟨hleft, hfirst⟩, hlast⟩, hstep⟩) (mark?_words hrest _ hm)

theorem called_named {e : Expr} {args : List Expr} {named : List (String × Expr)} (he : e.Named P)
    (hargs : ∀ a ∈ args, a.Named P) (hnamed : ∀ a ∈ named, a.2.Named P) : (called e args named).Named P := by
  unfold called
  split
  · exact Expr.named_call.mpr ⟨Expr.named_name.mp he, hargs, hnamed⟩
  · exact Expr.named_applied.mpr ⟨he, hargs⟩
  · exact Expr.named_applied.mpr ⟨he, hargs⟩

theorem postfixed_gives (he : Gives P (Expr.Named P) expression) :
    ∀ fuel e, e.Named P → Gives P (Expr.Named P) (postfixed expression fuel e)
  | 0, _, _, _, _ => Yields.none
  | fuel + 1, e, hleft, ts, hw => by
    unfold postfixed
    split
    · exact postfixed_gives he fuel (.attribute e _) hleft _ hw.tail.tail
    · exact postfixed_gives he fuel _ (Expr.named_entry.mpr ⟨hleft, Expr.named_literal⟩) _ hw.tail.tail
    · exact Yields.none
    · exact (bracketed_gives he hleft _ hw.tail).bind fun e rest hleft hrest => postfixed_gives he fuel e hleft rest hrest
    · exact (arguments_gives he _ hw.tail).bind fun as rest has hrest =>
        postfixed_gives he fuel _ (called_named hleft has.1 has.2) rest hrest
    · exact Yields.some hleft hw

theorem testArguments_gives (he : Gives P (Expr.Named P) expression) :
    Gives P (fun es : List Expr => ∀ e ∈ es, e.Named P) (testArguments expression) := by
  intro ts hw
  unfold testArguments
  split
  · rename_i hm
    exact (arguments_gives he _ (mark?_words hw _ hm)).map fun as rest has hrest => ⟨has.1, hrest⟩
  · split
    · refine (signed_gives he ts hw).bind fun e rest hsigned hrest => ?_
      refine (postfixed_gives he _ e hsigned rest hrest).bind fun e rest hpost hrest => ?_
      exact Yields.some (by simpa using hpost) hrest
    · exact Yields.some (by simp) hw

theorem filtered_gives (he : Gives P (Expr.Named P) expression) :
    ∀ fuel e, e.Named P → Gives P (Expr.Named P) (filtered expression fuel e)
  | 0, _, _, _, _ => Yields.none
  | fuel + 1, e, hleft, ts, hw => by
    have htested : ∀ (label : String) (wrap : Expr → Expr) rest, (∀ args, (∀ a ∈ args, a.Named P) →
        (wrap (.test e label args)).Named P) → Words P rest → Yields (Words P) (Expr.Named P)
          ((testArguments expression rest) >>= fun a => filtered expression fuel (wrap (.test e label a.1)) a.2) :=
      fun label wrap rest hwrap hrest => (testArguments_gives he rest hrest).bind fun args rest hargs hrest =>
        filtered_gives he fuel _ (hwrap args hargs) rest hrest
    unfold filtered
    split
    · exact (arguments_gives he _ hw.tail.tail.tail).bind fun as rest has hrest =>
        filtered_gives he fuel _ (Expr.named_filter.mpr ⟨⟨hleft, has.1⟩, has.2⟩) rest hrest
    · exact filtered_gives he fuel _ (Expr.named_filter.mpr ⟨⟨hleft, by simp⟩, by simp⟩) _ hw.tail.tail
    · exact Yields.none
    · exact htested _ .negation _ (fun args hargs => Expr.named_applied.mpr ⟨hleft, hargs⟩) hw.tail.tail.tail
    · exact Yields.none
    · exact htested _ id _ (fun args hargs => Expr.named_applied.mpr ⟨hleft, hargs⟩) hw.tail.tail
    · exact Yields.none
    · exact Yields.some hleft hw

theorem unary_gives (he : Gives P (Expr.Named P) expression) : Gives P (Expr.Named P) (unary expression) := fun ts hw =>
  (signed_gives he ts hw).bind fun e rest hsigned hrest =>
    (postfixed_gives he _ e hsigned rest hrest).bind fun e rest hpost hrest =>
      filtered_gives he _ e hpost rest hrest

theorem sums_gives (he : Gives P (Expr.Named P) expression) : Gives P (Expr.Named P) (sums expression) := by
  have hpowers : Gives P (Expr.Named P) (chained (oneOf [("**", .power)]) (unary expression)) :=
    chained_gives oneOf_gives (unary_gives he)
  exact chained_gives oneOf_gives (chained_gives oneOf_gives (chained_gives oneOf_gives hpowers))

theorem compared_gives {operand : Reader Expr} (ho : Gives P (Expr.Named P) operand) :
    ∀ fuel e, e.Named P → Gives P (Expr.Named P) (compared operand fuel e)
  | 0, _, _, _, _ => Yields.none
  | fuel + 1, left, hleft, ts, hw => by
    have hnext : ∀ op rest, Words P rest → Yields (Words P) (Expr.Named P)
        (operand rest >>= fun a => compared operand fuel (.binary op left a.1) a.2) :=
      fun op rest hrest => (ho rest hrest).bind fun right rest hright hrest =>
        compared_gives ho fuel _ (Expr.named_binary.mpr ⟨hleft, hright⟩) rest hrest
    unfold compared
    split
    · exact hnext _ _ hw.tail
    · refine Yields.behind (keyword?_words hw.tail) fun rest hrest => ?_
      exact (ho rest hrest).bind fun right rest hright hrest =>
        compared_gives ho fuel (.negation (.binary .within left right))
          (List.forall_mem_append.mpr ⟨hleft, hright⟩) rest hrest
    · split
      · exact Yields.some hleft hw
      · rename_i hop
        exact hnext _ _ (oneOf_gives ts hw _ _ hop).2

theorem negations_gives (he : Gives P (Expr.Named P) expression) : Gives P (Expr.Named P) (negations expression) := by
  have hcomparisons : Gives P (Expr.Named P) (comparisons expression) := fun ts hw =>
    (sums_gives he ts hw).bind fun left rest hleft hrest => compared_gives (sums_gives he) _ left hleft rest hrest
  intro ts
  induction ts with
  | nil => exact hcomparisons []
  | cons t ts ih =>
    intro hw
    unfold negations
    split
    · rename_i heq
      cases heq
      exact (ih hw.tail).map fun e rest he hrest => ⟨he, hrest⟩
    · exact hcomparisons _ hw

theorem joinedBy_gives {word : String} {join : Expr → Expr → Expr} (hjoin : ∀ l r, l.Named P → r.Named P → (join l r).Named P)
    {operand : Reader Expr} (ho : Gives P (Expr.Named P) operand) :
    ∀ fuel e, e.Named P → Gives P (Expr.Named P) (joinedBy word join operand fuel e)
  | 0, _, _, _, _ => Yields.none
  | fuel + 1, left, hleft, ts, hw => by
    unfold joinedBy
    split
    · exact Yields.some hleft hw
    · rename_i hk
      exact (ho _ (keyword?_words hw _ hk)).bind fun right rest hright hrest =>
        joinedBy_gives hjoin ho fuel _ (hjoin _ _ hleft hright) rest hrest

theorem disjunctions_gives (he : Gives P (Expr.Named P) expression) : Gives P (Expr.Named P) (disjunctions expression) := by
  have hconj : Gives P (Expr.Named P) (conjunctions expression) := fun ts hw =>
    (negations_gives he ts hw).bind fun left rest hleft hrest =>
      joinedBy_gives (fun _ _ hl hr => Expr.named_both.mpr ⟨hl, hr⟩) (negations_gives he) _ left hleft rest hrest
  exact fun ts hw => (hconj ts hw).bind fun left rest hleft hrest =>
    joinedBy_gives (fun _ _ hl hr => Expr.named_either.mpr ⟨hl, hr⟩) hconj _ left hleft rest hrest

theorem chosen_gives (he : Gives P (Expr.Named P) expression) :
    ∀ fuel e, e.Named P → Gives P (Expr.Named P) (chosen expression fuel e)
  | 0, _, _, _, _ => Yields.none
  | fuel + 1, yes, hyes, ts, hw => by
    unfold chosen
    split
    · exact Yields.some hyes hw
    · rename_i hk
      refine (disjunctions_gives he _ (keyword?_words hw _ hk)).bind fun test rest htest hrest => ?_
      dsimp only
      split
      · exact chosen_gives he fuel _ (Expr.named_choice.mpr ⟨⟨htest, hyes⟩, Expr.named_literal⟩) rest hrest
      · rename_i hk
        exact (he _ (keyword?_words hrest _ hk)).bind fun no rest hno hrest =>
          chosen_gives he fuel _ (Expr.named_choice.mpr ⟨⟨htest, hyes⟩, hno⟩) rest hrest

end Expression

/-- All names of an expression are words of its tokens. -/
theorem expression_gives : ∀ nesting, Gives P (Expr.Named P) (expression nesting)
  | 0, _, _ => Yields.none
  | nesting + 1, ts, hw => (disjunctions_gives (expression_gives nesting) ts hw).bind fun e rest he hrest =>
    chosen_gives (expression_gives nesting) _ e he rest hrest

theorem wholeExpression_named {ts : List Token} {e : Expr} (hw : Words P ts) (h : wholeExpression ts = some e) :
    e.Named P := by
  unfold wholeExpression at h
  split at h
  · rename_i hread
    cases h
    exact (expression_gives _ ts hw _ _ hread).1
  · cases h

/-! ### Targets -/

theorem targetName_words {ts rest : List Token} {n : String} (hw : Words P ts) (h : targetName ts = some (n, rest)) :
    Words P rest := by
  unfold targetName at h
  split at h
  · split at h
    · cases h
    · cases h
      exact hw.tail
  · cases h

theorem targetPart_gives {target : Reader Target} (ht : Gives P (fun _ => True) target) :
    Gives P (fun _ => True) (targetPart target) := by
  intro ts hw
  unfold targetPart
  split
  · refine (ht _ hw.tail).bind fun t rest _ hrest => ?_
    dsimp only
    cases hm : mark? ")" rest with
    | none => exact Yields.none
    | some after => exact Yields.some trivial (mark?_words hrest _ hm)
  · cases hn : targetName ts with
    | none => exact Yields.none
    | some read => exact Yields.some trivial (targetName_words hw hn)

theorem targetParts_gives {part : Reader Target} (hp : Gives P (fun _ => True) part) :
    ∀ fuel, Gives P (fun _ => True) (targetParts part fuel)
  | 0, _, _ => Yields.none
  | fuel + 1, ts, hw => by
    unfold targetParts
    split
    · exact Yields.some trivial hw
    · rename_i hm
      have hrest := mark?_words hw _ hm
      split
      · exact Yields.some trivial hrest
      · exact (hp _ hrest).bind fun t rest _ hrest => (targetParts_gives hp fuel rest hrest).bind fun more rest _ hrest =>
          Yields.some trivial hrest

theorem target_gives : ∀ nesting, Gives P (fun _ => True) (target nesting)
  | 0, _, _ => Yields.none
  | nesting + 1, ts, hw => by
    have hpart := targetPart_gives (target_gives nesting)
    refine (hpart ts hw).bind fun t rest _ hrest => ?_
    dsimp only
    split
    · exact Yields.some trivial hrest
    · exact (targetParts_gives hpart _ rest hrest).map fun more rest _ hrest => ⟨trivial, hrest⟩

end Reader
end PromptForm.Template
