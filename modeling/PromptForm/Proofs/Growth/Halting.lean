import PromptForm.Proofs.Growth.Sites
import PromptForm.Proofs.Pass.Modes
import PromptForm.Proofs.Trace.Drafts

/-! # What stops a pass that more answers let through

A pass may stop where a pass with more answers goes through. Conditions and the names of inputs are not to blame,
as they wait for the names that they read. What is left is a template outside of them that reads a name whose answer
is still to come (`Surroundings.Falters`); some such template there is (`Form.discover_stopped`). A condition that
is itself made by a template is one: it is read as a condition before the answer is known
(`discover_stops_early`). -/

namespace PromptForm

/-! ### Fatal errors of a discovery -/

/-- A discovery is stopped just if the walk ends early. -/
theorem Form.fatal?_eq_none {f : Form} {answers : Fields} :
    (f.discover answers).fatal? = none ↔ (f.trace answers).halted = none := by
  have herrors : (f.discover answers).errors = (Mode.discovery.gather answers (f.trace answers)).allErrors := by
    rw [f.discover_eq]
    rfl
  rw [Discovery.fatal?, herrors, List.find?_eq_none, ← Mode.discovery.harmless_iff answers]
  simp only [Bool.not_eq_true]

/-! ### Templates that gain -/

/-- The texts of a prop that are read as templates. -/
def Value.texts : Value → List String
  | .string text => [text]
  | .list items => items.filterMap Value.toString?
  | _ => []

theorem mapM_congr {α β ε : Type} {f g : α → Except ε β} : ∀ {xs : List α}, (∀ x ∈ xs, f x = g x) →
    xs.mapM f = xs.mapM g
  | [], _ => rfl
  | x :: xs, h => by
    rw [List.mapM_cons, List.mapM_cons, h x List.mem_cons_self, mapM_congr fun y hy => h y (List.mem_cons_of_mem x hy)]

namespace Surroundings
variable {s : Surroundings} {a b : Scope}

/-- A prop expands alike if its texts do. -/
theorem expandValue_congr {v : Value} (h : ∀ text ∈ v.texts, s.expand b text = s.expand a text) :
    s.expandValue b v = s.expandValue a v := by
  cases v with
  | string text => simp only [expandValue, expandText, h text (List.mem_singleton_self text)]
  | list items =>
    refine congrArg (Except.map Value.list) (mapM_congr fun item hitem => ?_)
    cases item with
    | string text =>
      have htext : text ∈ (Value.list items).texts := List.mem_filterMap.mpr ⟨.string text, hitem, rfl⟩
      simp only [expandText, h text htext]
    | _ => rfl
  | _ => rfl

theorem expandProps_congr {props : Fields} (h : ∀ k v, (k, v) ∈ props → s.expandValue b v = s.expandValue a v) :
    s.expandProps b props = s.expandProps a props :=
  mapM_congr fun (k, v) hprop => by simp only [h k v hprop]

/-- A template that no condition and no name of an input waits for reads a name that gets its answer later. As text
    it cannot be expanded now. -/
inductive Falters (s : Surroundings) (later : Fields) : Site → Prop where
  | text {room scope template n m} (hstop : s.expand scope template = .error m) (hn : n ∈ Template.namesRead template)
      (hgains : scope.Gains later n) : Falters s later ⟨room, scope, .text template⟩
  | prop {room scope tag props children k v text n} (hdecided : s.isWaiting tag props scope = .ok false)
      (hprop : (k, v) ∈ props) (htext : text ∈ v.texts) (hn : n ∈ Template.namesRead text)
      (hgains : scope.Gains later n) : Falters s later ⟨room + 1, scope, .element tag props children⟩

end Surroundings

/-! ### Two passes -/

/-- A walk ends early only if the other does. -/
def Trace.Spares (t u : Trace) : Prop := u.halted = none → t.halted = none

theorem Trace.spares_lockstep : Lockstep Spares where
  refl _ h := h
  empty _ _ := rfl
  andThen ht hu h := by
    obtain ⟨hfirst, hrest⟩ := andThen_halted.mp h
    exact andThen_halted.mpr ⟨ht hfirst, hu hrest⟩
  framed _ h := h

namespace Surroundings
variable {s : Surroundings} {later : Fields}

/-- Where no template falters, two passes are in step. -/
theorem alike_of_not_falters {p : Site} (hkept : Fields.Kept p.scope.answers later)
    (h : ∀ q, s.Visits p q → ¬s.Falters later q) : Alike Trace.Spares s later p where
  texts {room scope template} hq sections := by
    have hscope : Fields.Kept scope.answers later := answers_of_visits hq ▸ hkept
    cases hexpand : s.expand scope template with
    | ok text => exact fun _ => by simp only [traceAt, nodeTrace, hexpand]; rfl
    | error m =>
      have hsame : s.expand (scope.answering later) template = s.expand scope template :=
        expand_answering hscope fun n hn hgains => h _ hq (.text hexpand hn hgains)
      simp only [traceAt, nodeTrace, hsame]
      exact Trace.spares_lockstep.refl _
  elements {room scope tag props children} hq hdecided := by
    have hscope : Fields.Kept scope.answers later := answers_of_visits hq ▸ hkept
    refine .inl (expandProps_congr fun k v hprop => expandValue_congr fun text htext => ?_)
    exact expand_answering hscope fun n hn hgains => h _ hq (.prop hdecided hprop htext hn hgains)

end Surroundings

namespace Form
variable {f : Form} {answers later : Fields}

/-- What passes over a form read besides the answers. -/
def surroundings (f : Form) : Surroundings := ⟨f.registry, f.ctx⟩

/-- Where a walk begins. -/
def root (f : Form) (answers : Fields) : Site := ⟨maxDepth, ⟨answers, []⟩, f.tree⟩

/-- Answers that have not been given stop a pass only through a template that reads one of them and that nothing
    makes wait: if a pass is stopped that more answers let through, then on its way there is such a template. -/
theorem discover_stopped (hkept : Fields.Kept answers later) (hlater : (f.discover later).fatal? = none)
    (hstop : (f.discover answers).fatal? ≠ none) :
    ∃ q, f.surroundings.Visits (f.root answers) q ∧ f.surroundings.Falters later q := by
  refine Classical.byContradiction fun hnone => hstop ?_
  have halike : Alike Trace.Spares f.surroundings later (f.root answers) :=
    Surroundings.alike_of_not_falters hkept fun q hq hfalters => hnone ⟨q, hq, hfalters⟩
  have hspares : Trace.Spares (f.trace answers) (f.trace later) :=
    Surroundings.lockstep Trace.spares_lockstep hkept halike 0
  exact fatal?_eq_none.mpr (hspares (fatal?_eq_none.mp hlater))

/-- A form with a branch whose condition is the answer to an input. -/
def confirmForm : Form where
  tree := .fragment [.element "Ask.Confirm" [("name", .string "ok")] [],
    .element "If" [("when", .string "\x7b\x7b ok \x7d\x7d")] [.text "Go on."]]
  registry := Registry.standard
  ctx := Context.ofConfig {} ⟨"host", "user", "/", ⟨0, 0⟩⟩

/-- Before the input is answered the pass is stopped, and the condition is the template to blame. -/
theorem discover_stopped_confirm : (confirmForm.discover [("ok", .bool true)]).fatal? = none ∧
    (confirmForm.discover []).fatal? ≠ none ∧
    ∃ q, confirmForm.surroundings.Visits (confirmForm.root []) q ∧
      confirmForm.surroundings.Falters [("ok", .bool true)] q := by
  have hlater : (confirmForm.discover [("ok", .bool true)]).fatal? = none := by decide +kernel
  have hstop : (confirmForm.discover []).fatal? ≠ none := by decide +kernel
  exact ⟨hlater, hstop, discover_stopped nofun hlater hstop⟩

/-- It is not so that a pass goes through with some of the answers whenever it does with all of them. -/
theorem discover_stops_early : ¬∀ (f : Form) (answers later : Fields), f.registry = Registry.standard →
    Fields.Kept answers later → (f.discover later).fatal? = none → (f.discover answers).fatal? = none := by
  intro h
  have hlater : (confirmForm.discover [("ok", .bool true)]).fatal? = none := by decide +kernel
  have hstop : (confirmForm.discover []).fatal? ≠ none := by decide +kernel
  exact hstop (h confirmForm [] [("ok", .bool true)] rfl nofun hlater)

end Form
end PromptForm
