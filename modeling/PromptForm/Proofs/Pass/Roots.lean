import PromptForm.Proofs.Growth.NamesOnly
import PromptForm.Proofs.Trace.Parallel

/-! # What conditions and loops look up

Without templates only conditions and loops look names up in the scope, each by its root (`Node.rootsAt`). A walk with
other answers in which these roots mean the same is the same walk (`parallel_of_roots`). -/

namespace PromptForm

/-- The roots of what the condition of a branch reads, and of what a loop runs over. -/
def Node.rootsAt (tag : String) (props : Fields) : List String :=
  (if tag = "If" then
    match Condition.ofValue ((Fields.get? "when" props).getD .null) with
    | .ok condition => condition.references.map Scope.rootOf
    | .error _ => []
  else []) ++
  (if tag = "ForEach" then (Fields.text? "items" props).toList.map fun text => Scope.rootOf (Text.trimmed text) else [])

section Lookups
variable {others : Fields} {scope : Scope} {props : Fields}

/-- A condition is open alike if the roots of what it reads mean the same. -/
theorem Intrinsic.opens_of_roots (h : ∀ n ∈ Node.rootsAt "If" props, (scope.answering others).root? n = scope.root? n) :
    opens props (scope.answering others) = opens props scope := by
  unfold opens
  split
  · rfl
  · rename_i condition hread
    have hroots : ∀ n ∈ condition.references, (scope.answering others).root? (Scope.rootOf n) = scope.root? (Scope.rootOf n) := by
      intro n hn
      refine h _ ?_
      simpa [Node.rootsAt, hread] using ⟨n, hn, rfl⟩
    have hresolved : condition.references.all (scope.answering others).isResolved = condition.references.all scope.isResolved := by
      rw [Bool.eq_iff_iff, List.all_eq_true, List.all_eq_true]
      exact forall₂_congr fun n hn => by rw [Scope.isResolved_congr (hroots n hn)]
    have hholds : condition.holds (scope.answering others) = condition.holds scope :=
      Condition.holds_congr fun n hn => Scope.get_congr (hroots n (Condition.mem_firstUses hn))
    rw [hresolved, hholds]

/-- A loop runs over the same if the root of what it runs over means the same. -/
theorem loopItems_of_roots (h : ∀ n ∈ Node.rootsAt "ForEach" props, (scope.answering others).root? n = scope.root? n) :
    loopItems (scope.answering others) (Fields.get? "items" props) = loopItems scope (Fields.get? "items" props) := by
  cases hitems : Fields.get? "items" props with
  | none => rfl
  | some v =>
    cases v with
    | string text =>
      have hroot : (scope.answering others).root? (Scope.rootOf (Text.trimmed text)) =
          scope.root? (Scope.rootOf (Text.trimmed text)) := by
        refine h _ ?_
        simp [Node.rootsAt, Fields.text?, hitems, Value.toString?]
      simp only [loopItems, Scope.get_congr hroot]
    | _ => rfl

end Lookups

/-- Without templates a walk reads the other answers like the answers if every root that is looked up means the same. -/
theorem parallel_of_roots {s : Surroundings} {others : Fields} {p : Site} (hs : s.registry = Registry.standard)
    (hplain : p.node.NoTemplates s.registry)
    (hroots : ∀ {room scope tag props children}, s.Visits p ⟨room, scope, .element tag props children⟩ →
      ∀ n ∈ Node.rootsAt tag props, (scope.answering others).root? n = scope.root? n) :
    Parallel (· = ·) s others p where
  texts {room scope template} hq sections := by
    cases hplain.visits hs hq with
    | text h =>
      have hexpand : ∀ scope, s.expand scope template = .ok template := fun _ => Template.expand_of_not_marked _ h
      simp only [Surroundings.traceAt, Site.answering, Surroundings.nodeTrace, hexpand]
  elements hq := by
    have hprops := (hplain.visits hs hq).props_plain
    exact .inl ⟨hprops.isWaiting.trans hprops.isWaiting.symm, hprops.expandProps.trans hprops.expandProps.symm⟩
  scopes {room scope tag props children expanded i} hq hhandles := by
    -- The props are plain, and so what is expanded are the props that are looked up.
    cases hhandles.props.symm.trans (hplain.visits hs hq).props_plain.expandProps
    have hhandler := Registry.handler?_of_resolve hhandles.handler
    rw [hs] at hhandler
    cases Registry.standard_intrinsic hhandler
    refine .inl ?_
    cases i with
    | branch => exact Intrinsic.scopes_branch (Intrinsic.opens_of_roots (hroots hq))
    | loop => exact Intrinsic.scopes_loop (loopItems_of_roots (hroots hq))
    | _ => rfl

end PromptForm
