import PromptForm.Pass.Result

/-!
# Collecting answers

Answers are collected in rounds. Each round discovers the inputs that the answers so far leave open and
asks for them in document order; when a round finds none, the collection is done. Answers that open or
close branches so change what the next round asks.
-/

namespace PromptForm

/-- What answers are collected for. -/
structure Form where
  tree : Node
  registry : Registry
  ctx : Context

/-- The inputs that some answers leave open. -/
def Form.discover (f : Form) (answers : Fields) : Discovery :=
  PromptForm.discover f.tree f.registry f.ctx answers

/-- The text with some answers. -/
def Form.render (f : Form) (answers : Fields) : Rendered :=
  PromptForm.render f.tree f.registry f.ctx answers

inductive Phase where
  | notStarted
  | collecting
  | done
deriving DecidableEq, Repr

/-- How far a collection has come. -/
structure Collection where
  answers : Fields := []
  /-- The inputs of the present round that are still to be answered. -/
  queue : List Requirement := []
  phase : Phase := .notStarted
  /-- The errors of the latest round, none of them fatal. -/
  errors : List RenderError := []
deriving DecidableEq

/-- What became of an answer. -/
inductive Submission where
  | accepted
  | rejected (reasons : List Rejection)
deriving DecidableEq

namespace Collection

/-- A collection that has some answers from the start; these are not asked for. -/
def seeded (answers : Fields) : Collection := { answers }

def isDone (c : Collection) : Bool := c.phase == .done

/-- What a discovery without a fatal error makes of a collection. -/
def noting (c : Collection) (found : Discovery) : Collection :=
  { c with
    errors := found.errors
    queue := found.requirements
    phase := if found.requirements.isEmpty then .done else c.phase }

/-- Discovers again. A fatal error leaves the collection as it is. -/
def rediscover (f : Form) (c : Collection) : Collection × Except RenderError Unit :=
  let found := f.discover c.answers
  match found.fatal? with
  | some e => (c, .error e)
  | none => (c.noting found, .ok ())

theorem rediscover_eq_ok {f : Form} {c c' : Collection} : rediscover f c = (c', .ok ()) ↔
    (f.discover c.answers).fatal? = none ∧ c' = c.noting (f.discover c.answers) := by
  cases h : (f.discover c.answers).fatal? with
  | some e => simp [rediscover, h]
  | none =>
    simp only [rediscover, h, Prod.mk.injEq, and_true, true_and]
    exact eq_comm

/-- The first round. -/
def start (f : Form) (c : Collection) : Collection × Except RenderError Unit :=
  -- The phase changes before the form is looked at, so a start that fails is not made again.
  if c.phase = .notStarted then rediscover f { c with phase := .collecting }
  else (c, .error (.protocol .alreadyStarted))

/-- Refuses what only a running collection can do. -/
def running (c : Collection) : Except ProtocolError Unit :=
  match c.phase with
  | .notStarted => .error .notStarted
  | .done => .error .done
  | .collecting => .ok ()

/-- The input to be answered now. -/
def current (c : Collection) : Except ProtocolError Requirement := do
  c.running
  match c.queue with
  | r :: _ => .ok r
  | [] => .error .pendingAdvance

theorem running_eq_ok {c : Collection} : c.running = .ok () ↔ c.phase = .collecting := by
  unfold running
  cases c.phase <;> simp

theorem current_eq_ok {c : Collection} {r : Requirement} :
    c.current = .ok r ↔ c.phase = .collecting ∧ ∃ rest, c.queue = r :: rest := by
  unfold current running
  cases c.phase <;> cases c.queue <;> simp [bind, Except.bind]

/-- While an input is open it is current. -/
theorem current_noting {f : Form} {c : Collection} {r : Requirement} {rest : List Requirement}
    (hphase : c.phase = .collecting) (hfirst : (f.discover c.answers).requirements = r :: rest) :
    (c.noting (f.discover c.answers)).isDone = false ∧ (c.noting (f.discover c.answers)).current = .ok r := by
  have hnoted : (c.noting (f.discover c.answers)).phase = .collecting := by
    simp only [noting, hfirst, List.isEmpty_cons, Bool.false_eq_true, if_false]
    exact hphase
  exact ⟨by rw [isDone, hnoted]; rfl, current_eq_ok.mpr ⟨hnoted, rest, hfirst⟩⟩

/-- Stores a value for the input at the front of the queue. -/
def store (c : Collection) (name : String) (value : Value) : Collection :=
  { c with answers := Fields.insert name value c.answers, queue := c.queue.tail }

/-- Answers the current input. A rejected answer is not stored, and the input stays current. -/
def submit (c : Collection) (answer : Value) : Collection × Except ProtocolError Submission :=
  match c.current with
  | .error e => (c, .error e)
  | .ok r =>
    match r.validate answer with
    | .ok value => (c.store r.name value, .ok .accepted)
    | .error reasons => (c, .ok (.rejected reasons))

/-- The next round. -/
def advance (f : Form) (c : Collection) : Collection × Except RenderError Unit :=
  match c.running with
  | .error e => (c, .error (.protocol e))
  | .ok () => rediscover f c

/-- Answers the current input with its default or empty value and begins the next round. -/
def fillOne (f : Form) (c : Collection) : Collection × Except RenderError Unit :=
  match c.current with
  | .error e => (c, .error (.protocol e))
  | .ok r => advance f (c.store r.name r.fallback)

end Collection
end PromptForm
