import PromptForm.Template.Expansion

/-! # What a template depends on

A template prints the same wherever the names that it reads from outside mean the same
(`Template.render_congr`), and author text expands alike (`Template.expand_congr`). A name bound by the
template itself never reaches the outside: at each place the bindings cover the names that
`Statement.reads` takes for bound (`Covers`), and every step of a template keeps that. -/

namespace PromptForm.Template

variable {env env' : Meaning} {bound : List String} {bindings bindings' : Bindings}

/-- The two meanings are the same on these names. -/
def Agree (names : List String) (env env' : Meaning) : Prop := ∀ n ∈ names, env n = env' n

theorem Agree.mono {names more : List String} (h : Agree more env env') (hsub : ∀ n ∈ names, n ∈ more) :
    Agree names env env' := fun n hn => h n (hsub n hn)

theorem Agree.left {xs ys : List String} (h : Agree (xs ++ ys) env env') : Agree xs env env' :=
  h.mono fun _ hn => List.mem_append_left ys hn

theorem Agree.right {xs ys : List String} (h : Agree (xs ++ ys) env env') : Agree ys env env' :=
  h.mono fun _ hn => List.mem_append_right xs hn

/-! ### Expressions -/

namespace Expr

mutual
/-- An expression reads nothing but its names. -/
theorem value_congr : ∀ e : Expr, Agree e.names env env' → e.value env = e.value env'
  | .literal _, _ => rfl
  | .name n, h => by
    have hn : env n = env' n := h n (by simp [names])
    simp only [value, hn]
  | .list items, h => by simp only [value, values_congr items h]
  | .map entries, h => by simp only [value, entryValues_congr entries h]
  | .negative e, h => by simp only [value, value_congr e h]
  | .negation e, h => by simp only [value, value_congr e h]
  | .binary _ l r, h => by simp only [value, value_congr l h.left, value_congr r h.right]
  | .both l r, h => by simp only [value, value_congr l h.left, value_congr r h.right]
  | .either l r, h => by simp only [value, value_congr l h.left, value_congr r h.right]
  | .choice t y n, h => by
    simp only [value, value_congr t h.left.left, value_congr y h.left.right, value_congr n h.right]
  | .attribute e _, h => by simp only [value, value_congr e h]
  | .entry e k, h => by simp only [value, value_congr e h.left, value_congr k h.right]
  | .slice e a b c, h => by
    simp only [value, value_congr e h.left.left.left, value_congr a h.left.left.right,
      value_congr b h.left.right, value_congr c h.right]
  | .filter e _ args named, h => by
    simp only [value, value_congr e h.left.left, values_congr args h.left.right,
      namedValues_congr named h.right]
  | .test e _ args, h => by simp only [value, value_congr e h.left, values_congr args h.right]
  | .call f args named, h => by
    have hf : env f = env' f := h f (by simp [names])
    have hargs : Agree (namesOfItems args ++ namesOfNamed named) env env' :=
      h.mono fun _ hn => List.mem_cons_of_mem f hn
    simp only [value, hf, values_congr args hargs.left, namedValues_congr named hargs.right]
  | .method e _ args, h => by simp only [value, value_congr e h.left, values_congr args h.right]
  | .invoke e args, h => by simp only [value, value_congr e h.left, values_congr args h.right]
termination_by structural e => e
theorem values_congr : ∀ es : List Expr, Agree (namesOfItems es) env env' → values env es = values env' es
  | [], _ => rfl
  | e :: es, h => by simp only [values, value_congr e h.left, values_congr es h.right]
termination_by structural es => es
theorem entryValues_congr : ∀ es : List (Expr × Expr), Agree (namesOfEntries es) env env' →
    entryValues env es = entryValues env' es
  | [], _ => rfl
  | (k, e) :: es, h => by
    simp only [entryValues, value_congr k h.left.left, value_congr e h.left.right, entryValues_congr es h.right]
termination_by structural es => es
theorem namedValues_congr : ∀ es : List (String × Expr), Agree (namesOfNamed es) env env' →
    namedValues env es = namedValues env' es
  | [], _ => rfl
  | (_, e) :: es, h => by simp only [namedValues, value_congr e h.left, namedValues_congr es h.right]
termination_by structural es => es
end

end Expr

/-! ### Bindings -/

/-- The bindings hold every name that is taken for bound. -/
def Covers (bound : List String) (bindings : Bindings) : Prop :=
  ∀ n ∈ bound, (Fields.get? n bindings).isSome

theorem Covers.cons (h : Covers bound bindings) (n : String) (d : Datum) :
    Covers (n :: bound) ((n, d) :: bindings) := by
  intro m hm
  by_cases hnm : n = m
  · simp [Fields.get?, hnm]
  · have hb : m ∈ bound := (List.mem_cons.mp hm).resolve_left (Ne.symm hnm)
    simpa [Fields.get?, hnm] using h m hb

theorem Covers.mono {fewer : List String} (h : Covers bound bindings) (hsub : ∀ n ∈ fewer, n ∈ bound) :
    Covers fewer bindings := fun n hn => h n (hsub n hn)

/-- A name from outside is one that the bindings need not hold. -/
theorem mem_outside {names : List String} {n : String} (hn : n ∈ names) (hb : n ∉ bound) :
    n ∈ outside bound names := by
  simp [outside, hn, hb]

/-- Under bindings that cover the bound names only the names from outside matter. -/
theorem under_congr {names : List String} (hc : Covers bound bindings)
    (h : Agree (outside bound names) env env') : Agree names (under bindings env) (under bindings env') := by
  intro n hn
  by_cases hb : n ∈ bound
  · obtain ⟨d, hd⟩ := Option.isSome_iff_exists.mp (hc n hb)
    simp [under, hd]
  · simp only [under, h n (mem_outside hn hb)]

/-- A sequence of two outcomes succeeds through a success of the first. -/
theorem bind_eq_ok {α β : Type} {x : Outcome α} {f : α → Outcome β} {b : β} (h : x >>= f = .ok b) :
    ∃ a, x = .ok a ∧ f a = .ok b := by
  cases x with
  | error e => cases h
  | ok a => exact ⟨a, rfl, h⟩

/-- Sequences are the same if their first parts are and the rest agrees on what these give. -/
theorem bind_congr_ok {α β : Type} {x y : Outcome α} {f g : α → Outcome β} (hxy : x = y)
    (hfg : ∀ a, y = .ok a → f a = g a) : x >>= f = y >>= g := by
  subst hxy
  cases x with
  | error e => rfl
  | ok a => exact hfg a rfl

mutual
/-- After a target has taken data its names are bound too. -/
theorem bind_covers : ∀ (t : Target) {bound : List String} {d : Datum} {bindings bindings' : Bindings},
    t.bind d bindings = .ok bindings' → Covers bound bindings → Covers (t.names ++ bound) bindings'
  | .name n, _, d, _, _, h, hc => by
    cases h
    exact hc.cons n d
  | .parts ts, _, d, _, _, h, hc => by
    cases d with
    | list items => exact bindParts_covers ts h hc
    | map entries => exact bindParts_covers ts h hc
    | _ => cases h
termination_by structural t => t
theorem bindParts_covers : ∀ (ts : List Target) {bound : List String} {ds : List Datum}
    {bindings bindings' : Bindings},
    Target.bindParts ts ds bindings = .ok bindings' → Covers bound bindings →
      Covers (Target.namesOfParts ts ++ bound) bindings'
  | [], _, [], _, _, h, hc => by
    cases h
    exact hc
  | [], _, _ :: _, _, _, h, _ => nomatch h
  | _ :: _, _, [], _, _, h, _ => nomatch h
  | t :: ts, _, d :: ds, _, _, h, hc => by
    obtain ⟨middle, hm, hrest⟩ := bind_eq_ok h
    have hmiddle := bind_covers t hm hc
    refine (bindParts_covers ts hrest hmiddle).mono fun n hn => ?_
    simp only [Target.namesOfParts, List.mem_append] at hn ⊢
    rcases hn with (hn | hn) | hn
    · exact Or.inr (Or.inl hn)
    · exact Or.inl hn
    · exact Or.inr (Or.inr hn)
termination_by structural ts => ts
end

/-! ### Statements -/

mutual
/-- After a statement the names that it binds are bound too. -/
theorem run_covers : ∀ (s : Statement) {bound : List String} {bindings bindings' : Bindings} {printed : String},
    s.run env bindings = .ok (printed, bindings') → Covers bound bindings → Covers (s.binds ++ bound) bindings'
  | .text _, _, _, _, _, h, hc => by
    cases h
    exact hc
  | .output e, _, _, _, _, h, hc => by
    obtain ⟨d, -, h⟩ := bind_eq_ok h
    cases h
    exact hc
  | .branch test yes no, _, _, _, _, h, hc => by
    obtain ⟨d, -, h⟩ := bind_eq_ok h
    split at h
    · exact runBody_covers yes h hc
    · exact runBody_covers no h hc
  | .loop target source filter body otherwise, _, _, _, _, h, hc => by
    obtain ⟨d, -, h⟩ := bind_eq_ok h
    split at h
    · cases h
    · obtain ⟨members, -, h⟩ := bind_eq_ok h
      split at h
      -- The rounds bind names for themselves; the part for a loop without members binds them for good.
      · obtain ⟨⟨printed, left⟩, ho, h⟩ := bind_eq_ok h
        cases h
        exact runBody_covers otherwise ho hc
      · obtain ⟨printed, -, h⟩ := bind_eq_ok h
        cases h
        exact hc
  | .assign target e, _, _, _, _, h, hc => by
    obtain ⟨d, -, h⟩ := bind_eq_ok h
    obtain ⟨left, ht, h⟩ := bind_eq_ok h
    cases h
    exact bind_covers target ht hc
  | .capture name body, _, _, _, _, h, hc => by
    obtain ⟨⟨printed, left⟩, hb, h⟩ := bind_eq_ok h
    cases h
    exact (runBody_covers body hb hc).cons name (.string printed)
termination_by structural s => s
theorem runBody_covers : ∀ (ss : List Statement) {bound : List String} {bindings bindings' : Bindings}
    {printed : String}, runBody env ss bindings = .ok (printed, bindings') → Covers bound bindings →
      Covers bound bindings'
  | [], _, _, _, _, h, hc => by
    cases h
    exact hc
  | s :: rest, _, _, _, _, h, hc => by
    obtain ⟨⟨printed, middle⟩, hs, h⟩ := bind_eq_ok h
    obtain ⟨⟨more, left⟩, hrest, h⟩ := bind_eq_ok h
    cases h
    have hmiddle := run_covers s hs hc
    exact runBody_covers rest hrest (hmiddle.mono fun _ hn => List.mem_append_right _ hn)
termination_by structural ss => ss
end

/-- Filters that agree wherever the target is bound let the same members pass. -/
theorem passing_congr {target : Target} {f g : Bindings → Outcome Datum} (hc : Covers bound bindings)
    (hfg : ∀ b, Covers (target.names ++ bound) b → f b = g b) :
    ∀ ds : List Datum, passing target f bindings ds = passing target g bindings ds
  | [] => rfl
  | d :: ds => by
    simp only [passing]
    refine bind_congr_ok rfl fun b hb => ?_
    rw [hfg b (bind_covers target hb hc), passing_congr hc hfg ds]

/-- Bodies that agree wherever the target and `loop` are bound make the same rounds, if they keep what is
    bound. -/
theorem rounds_congr {target : Target} {f g : Bindings → Outcome (String × Bindings)} {length : Nat}
    (hfg : ∀ b, Covers ("loop" :: (target.names ++ bound)) b → f b = g b)
    (keeps : ∀ b printed b', g b = .ok (printed, b') → Covers bound b → Covers bound b') :
    ∀ (ds : List Datum) (index : Nat) {bindings : Bindings}, Covers bound bindings →
      rounds target f length index bindings ds = rounds target g length index bindings ds
  | [], _, _, _ => rfl
  | d :: ds, index, bindings, hc => by
    simp only [rounds]
    refine bind_congr_ok rfl fun b hb => ?_
    have hb' : Covers ("loop" :: (target.names ++ bound)) b :=
      (bind_covers target hb (hc.cons "loop" (.loop index length))).mono fun n hn => by
        simp only [List.mem_cons, List.mem_append] at hn ⊢
        rcases hn with hn | hn | hn
        · exact Or.inr (Or.inl hn)
        · exact Or.inl hn
        · exact Or.inr (Or.inr hn)
    refine bind_congr_ok (hfg b hb') fun ⟨printed, b₂⟩ hg => ?_
    have hb₂ : Covers bound b₂ :=
      keeps b printed b₂ hg (hb'.mono fun n hn => List.mem_cons_of_mem _ (List.mem_append_right _ hn))
    simp only [rounds_congr hfg keeps ds (index + 1) hb₂]

mutual
/-- A statement runs alike where the names that it reads from outside mean the same. -/
theorem run_congr : ∀ (s : Statement) {bound : List String} {bindings : Bindings}, Covers bound bindings →
    Agree (s.reads bound) env env' → s.run env bindings = s.run env' bindings
  | .text _, _, _, _, _ => rfl
  | .output e, _, _, hc, h => by simp only [Statement.run, e.value_congr (under_congr hc h)]
  | .branch test yes no, _, _, hc, h => by
    simp only [Statement.run, test.value_congr (under_congr hc h.left.left), runBody_congr yes hc h.left.right,
      runBody_congr no hc h.right]
  | .loop target source filter body otherwise, bound, bindings, hc, h => by
    -- The filter sees the names of the target, and the body `loop` besides.
    have hfilter : ∀ e, filter = some e → ∀ b, Covers (target.names ++ bound) b →
        e.value (under b env) = e.value (under b env') := by
      rintro e rfl b hb
      exact e.value_congr (under_congr hb h.left.left.right)
    have hbody : ∀ b, Covers ("loop" :: (target.names ++ bound)) b → runBody env body b = runBody env' body b :=
      fun b hb => runBody_congr body hb h.left.right
    simp only [Statement.run]
    refine bind_congr_ok (source.value_congr (under_congr hc h.left.left.left)) fun d _ => ?_
    cases d.members? with
    | none => rfl
    | some members =>
      refine bind_congr_ok ?_ fun chosen _ => ?_
      · cases filter with
        | none => rfl
        | some e => exact passing_congr hc (hfilter e rfl) members
      · cases chosen with
        | nil => simp only [runBody_congr otherwise hc h.right]
        | cons d ds =>
          simp only [rounds_congr hbody (fun _ _ _ => runBody_covers body) (d :: ds) 0 hc]
  | .assign target e, _, _, hc, h => by simp only [Statement.run, e.value_congr (under_congr hc h)]
  | .capture name body, _, _, hc, h => by simp only [Statement.run, runBody_congr body hc h]
termination_by structural s => s
theorem runBody_congr : ∀ (ss : List Statement) {bound : List String} {bindings : Bindings},
    Covers bound bindings → Agree (bodyReads bound ss) env env' →
      runBody env ss bindings = runBody env' ss bindings
  | [], _, _, _, _ => rfl
  | s :: rest, _, _, hc, h => by
    simp only [runBody]
    refine bind_congr_ok (run_congr s hc h.left) fun ⟨printed, left⟩ hs => ?_
    simp only [runBody_congr rest (run_covers s hs hc) h.right]
termination_by structural ss => ss
end

/-! ### Templates -/

/-- A template prints the same where the names that it reads mean the same. -/
theorem render_congr (t : Template) (h : Agree t.reads env env') : t.render env = t.render env' := by
  have hcovers : Covers [] ([] : Bindings) := fun _ hn => nomatch hn
  simp only [render, runBody_congr t.body hcovers h]

/-- The names that author text reads, none if it is no template that can be read. -/
def namesRead (source : String) : List String :=
  match namesIn source with
  | .ok names => names
  | .error _ => []

/-- Author text expands alike with fields that agree on the names it reads. -/
theorem expand_congr {fields fields' : Fields} {source : String}
    (h : ∀ n ∈ namesRead source, Fields.get? n fields = Fields.get? n fields') :
    expand fields source = expand fields' source := by
  unfold expand
  split
  · rename_i hmarked
    cases ht : ofText? source with
    | none => rfl
    | some t =>
      have hreads : namesRead source = t.reads := by simp [namesRead, namesIn, hmarked, ht]
      have hagree : Agree t.reads (meaningOf fields) (meaningOf fields') := fun n hn => by
        simp only [meaningOf, h n (hreads ▸ hn)]
      simp only [t.render_congr hagree]
  · rfl

end PromptForm.Template
