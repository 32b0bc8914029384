import PromptForm.Proofs.Locality.Scope
import PromptForm.Proofs.Trace.Visits

/-! # Two walks side by side

A walk with other answers comes to the same sites as long as it reads every site like the first (`Parallel`). What can
be said of the two traces then depends on what a relation between traces bears (`Stepwise`): it holds of the wholes if it
holds of their parts (`Surroundings.related`). -/

namespace PromptForm

namespace Intrinsic
variable {props : Fields} {scope : Scope} {others : Fields}

theorem scopes_branch (h : opens props (scope.answering others) = opens props scope) :
    branch.scopes props (scope.answering others) = (branch.scopes props scope).map (·.answering others) := by
  simp only [scopes, h]
  split <;> rfl

theorem scopes_loop (h : loopItems (scope.answering others) (Fields.get? "items" props) =
      loopItems scope (Fields.get? "items" props)) :
    loop.scopes props (scope.answering others) = (loop.scopes props scope).map (·.answering others) := by
  simp only [scopes, h, List.mapIdx_eq_zipIdx_map, List.map_map]
  exact List.map_congr_left fun _ _ => (Scope.answering_inRound _ _ _ _ _ _).symm

end Intrinsic

/-! ### Walks with other answers -/

/-- The site with other answers. -/
def Site.answering (p : Site) (answers : Fields) : Site := { p with scope := p.scope.answering answers }

/-- The relation holds of what the two walks meet from a site on. -/
def Site.Related (R : Trace → Trace → Prop) (s : Surroundings) (others : Fields) (p : Site) : Prop :=
  ∀ sections, R (s.traceAt sections p) (s.traceAt sections (p.answering others))

/-- At every site from here on the walk with other answers reads what the walk reads, or else the relation holds of
    what the two meet there. -/
structure Parallel (R : Trace → Trace → Prop) (s : Surroundings) (others : Fields) (p : Site) : Prop where
  texts : ∀ {room scope template}, s.Visits p ⟨room, scope, .text template⟩ →
    Site.Related R s others ⟨room, scope, .text template⟩
  elements : ∀ {room scope tag props children}, s.Visits p ⟨room + 1, scope, .element tag props children⟩ →
    (s.isWaiting tag props (scope.answering others) = s.isWaiting tag props scope ∧
      s.expandProps (scope.answering others) props = s.expandProps scope props) ∨
    Site.Related R s others ⟨room + 1, scope, .element tag props children⟩
  scopes : ∀ {room scope tag props children expanded i}, s.Visits p ⟨room + 1, scope, .element tag props children⟩ →
    s.Handles tag props scope expanded (.intrinsic i) →
    i.scopes expanded (scope.answering others) = (i.scopes expanded scope).map (·.answering others) ∨
    Site.Related R s others ⟨room + 1, scope, .element tag props children⟩

theorem Parallel.enter {R : Trace → Trace → Prop} {s : Surroundings} {others : Fields} {p q : Site}
    (h : Parallel R s others p) (hpq : s.Enters p q) : Parallel R s others q where
  texts hq := h.texts (.head hpq hq)
  elements hq := h.elements (.head hpq hq)
  scopes hq := h.scopes (.head hpq hq)

/-- A relation between traces that holds of wholes if it holds of their parts. -/
structure Stepwise (R : Trace → Trace → Prop) : Prop where
  refl : ∀ t, R t t
  andThen : ∀ {t u t' u'}, R t u → R t' u' → R (t.andThen t') (u.andThen u')
  framed : ∀ {t u} frame, R t u → R (t.framed frame) (u.framed frame)

namespace Stepwise
variable {R : Trace → Trace → Prop}

theorem eq : Stepwise (· = ·) where
  refl _ := rfl
  andThen ht hu := congrArg₂ Trace.andThen ht hu
  framed frame h := congrArg (Trace.framed frame) h

theorem inTurn (hR : Stepwise R) {α : Type} {f g : α → Trace} : ∀ {xs : List α}, (∀ x ∈ xs, R (f x) (g x)) →
    R (Trace.inTurn (xs.map f)) (Trace.inTurn (xs.map g))
  | [], _ => hR.refl _
  | x :: _, h => hR.andThen (h x List.mem_cons_self) (hR.inTurn fun y hy => h y (List.mem_cons_of_mem x hy))

theorem framedBy (hR : Stepwise R) {t u : Trace} (h : R t u) (frame : Option Frame) : R (t.framedBy frame) (u.framedBy frame) := by
  cases frame with
  | none => exact h
  | some frame => exact hR.framed frame h

end Stepwise

namespace Surroundings
variable {R : Trace → Trace → Prop} {s : Surroundings} {others : Fields}

theorem related_component (hR : Stepwise R) {node node' : Node → Trace} (c : Component) (tag : String) (props : Fields)
    (children : List Node) (hnode : ∀ n, c.requirement props = .ok none →
      c.render ⟨tag, props, children, none⟩ s.ctx = .ok n → R (node n) (node' n)) :
    R (s.componentTrace node c tag props children) (s.componentTrace node' c tag props children) := by
  unfold componentTrace
  split
  · exact hR.refl _
  · exact hR.refl _
  · rename_i hask
    refine hR.andThen (hR.refl _) ?_
    split
    · rename_i n hrender
      exact hnode n hask hrender
    · exact hR.refl _

section Nodes
variable {room : Nat} {scope : Scope}

mutual
theorem related_node (hR : Stepwise R)
    (helements : ∀ tag props children, Parallel R s others ⟨room, scope, .element tag props children⟩ →
      Site.Related R s others ⟨room, scope, .element tag props children⟩) (sections : Nat) :
    ∀ n : Node, Parallel R s others ⟨room, scope, n⟩ → R (s.traceAt sections ⟨room, scope, n⟩)
      (s.traceAt sections ⟨room, scope.answering others, n⟩)
  | .empty, _ | .literal _, _ => hR.refl _
  | .text _, h => h.texts .refl sections
  | .fragment nodes, h => related_nodes hR helements sections nodes fun _ hn => h.enter (.member hn)
  | .element tag props children, h => helements tag props children h sections
termination_by structural n => n
theorem related_nodes (hR : Stepwise R)
    (helements : ∀ tag props children, Parallel R s others ⟨room, scope, .element tag props children⟩ →
      Site.Related R s others ⟨room, scope, .element tag props children⟩) (sections : Nat) :
    ∀ ns : List Node, (∀ n ∈ ns, Parallel R s others ⟨room, scope, n⟩) →
      R (s.nodesTrace (s.elementTrace room) scope sections ns)
        (s.nodesTrace (s.elementTrace room) (scope.answering others) sections ns)
  | [], _ => hR.refl _
  | n :: ns, h =>
    hR.andThen (related_node hR helements sections n (h n List.mem_cons_self))
      (related_nodes hR helements sections ns fun m hm => h m (List.mem_cons_of_mem n hm))
termination_by structural ns => ns
end

end Nodes

/-- The induction is on the room that is left for elements inside each other. -/
theorem related_element (hR : Stepwise R) : ∀ (room : Nat) (scope : Scope) (tag props children),
    Parallel R s others ⟨room, scope, .element tag props children⟩ →
      Site.Related R s others ⟨room, scope, .element tag props children⟩
  | 0, _, _, _, _, _, _ => hR.refl _
  | room + 1, scope, tag, props, children, h, sections => by
    rcases h.elements .refl with ⟨hwaiting, hprops⟩ | hwhole
    · have hsame : s.verdict tag props (scope.answering others) = s.verdict tag props scope := by
        simp only [verdict, hwaiting, hprops]
      show R (s.elementTrace (room + 1) tag props children scope sections)
        (s.elementTrace (room + 1) tag props children (scope.answering others) sections)
      rw [elementTrace_eq, elementTrace_eq, hsame]
      cases hverdict : s.verdict tag props scope with
      | malformed m => exact hR.refl _
      | waiting => exact hR.refl _
      | refused expanded e => exact hR.refl _
      | handled expanded handler =>
        have hhandles := verdict_eq_handled.mp hverdict
        cases handler with
        | intrinsic i =>
          -- The rounds are the same, each with the other answers, unless the whole is related anyway.
          rcases h.scopes .refl hhandles with hscopes | hwhole
          · simp only [intrinsicTrace_eq, hscopes, List.map_map]
            split
            · exact hR.refl _
            · refine hR.framedBy (hR.inTurn fun inner hinner => ?_) _
              refine related_nodes hR (related_element hR room inner) _ children fun n hn => ?_
              exact h.enter (.child hhandles hinner hn)
          · have hrelated := hwhole sections
            simp only [traceAt, Site.answering, nodeTrace, elementTrace_eq, hsame, hverdict] at hrelated
            exact hrelated
        | component c =>
          refine related_component hR c tag expanded children fun n hask hrender => ?_
          exact related_node hR (related_element hR room scope) sections n (h.enter (.expansion hhandles hask hrender))
    · exact hwhole sections

/-- Walks that read alike are related. -/
theorem related (hR : Stepwise R) {p : Site} (h : Parallel R s others p) : p.Related R s others :=
  fun sections => related_node hR (related_element hR p.room p.scope) sections p.node h

end Surroundings

end PromptForm
