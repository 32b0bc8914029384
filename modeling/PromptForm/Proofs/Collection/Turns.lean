import PromptForm.Proofs.Collection.Invariant
import PromptForm.Collection.Dialogue

/-! # Dialogues turn by turn

Seen from outside a dialogue is a row of turns: it asks for the first input that a discovery with the answers so far
leaves open, and reads one line for it (`Dialogue.Turns`). It ends where a discovery is fatal or leaves nothing open, or
where the lines run out (`Dialogue.Stops`). Between two turns the queue of the collection is what a discovery finds, so
that the dialogue goes on as if it began with the answers so far (`Dialogue.resume_turn`). -/

namespace PromptForm.Dialogue

/-! ### Turns -/

/-- An input that is asked for, and the line that is read for it. -/
structure Turn where
  asked : Requirement
  line : List Char

namespace Turn

/-- The answers after a turn: an accepted answer is stored under the name of the input. -/
def answers (t : Turn) (before : Fields) : Fields :=
  match t.asked.validate (answerOf t.line) with
  | .ok v => Fields.insert t.asked.name v before
  | .error _ => before

/-- What is said about the line. -/
def reply (t : Turn) : String :=
  match t.asked.validate (answerOf t.line) with
  | .ok _ => ""
  | .error reasons => objections reasons

def shown (t : Turn) : String := question t.asked ++ t.reply

end Turn

/-- Turns that lead from some answers to others. Each asks for the first input that a discovery leaves open. -/
inductive Turns (f : Form) : Fields → List Turn → Fields → Prop where
  | nil {answers} : Turns f answers [] answers
  | cons {answers t rest turns last} (hfatal : (f.discover answers).fatal? = none)
      (hfirst : (f.discover answers).requirements = t.asked :: rest) (h : Turns f (t.answers answers) turns last) :
      Turns f answers (t :: turns) last

/-- How a dialogue ends before it reads the lines that are left, and what it shows last. -/
inductive Stops (f : Form) (answers : Fields) : List (List Char) → String → Except DialogueError Unit → Prop where
  | fatal {unread e} (h : (f.discover answers).fatal? = some e) : Stops f answers unread "" (.error (.render e))
  | complete {unread} (hfatal : (f.discover answers).fatal? = none) (h : (f.discover answers).requirements = []) :
      Stops f answers unread "" (.ok ())
  | closed {r rest} (hfatal : (f.discover answers).fatal? = none)
      (h : (f.discover answers).requirements = r :: rest) :
      Stops f answers [] (question r) (.error (.closed r.name))

section Turns
variable {f : Form} {answers last : Fields} {t u : Turn} {turns : List Turn}

/-- After a rejected line the same input is asked for. -/
theorem Turns.asked_again {before after : List Turn} {reasons : List Rejection}
    (h : Turns f answers (before ++ t :: u :: after) last) (hrejected : t.asked.validate (answerOf t.line) = .error reasons) :
    u.asked = t.asked := by
  induction before generalizing answers with
  | nil =>
    obtain _ | ⟨-, hfirst, _ | ⟨-, hnext, -⟩⟩ := h
    have hsame : t.answers answers = answers := by rw [Turn.answers, hrejected]
    rw [hsame, hfirst] at hnext
    exact (List.cons.inj hnext).1.symm
  | cons first before ih =>
    obtain _ | ⟨-, -, h⟩ := h
    exact ih h

/-- No turn replaces an answer: what is asked for has none. -/
theorem Turns.kept (h : Turns f answers turns last) : Fields.Kept answers last := by
  induction h with
  | nil => exact Fields.Kept.refl _
  | @cons answers t rest turns last hfatal hfirst h ih =>
    refine Fields.Kept.trans ?_ ih
    unfold Turn.answers
    split
    · have hopen : Fields.get? t.asked.name answers = none :=
        (f.discover_askable answers).unanswered _ (hfirst ▸ List.mem_cons_self)
      exact Fields.Kept.insert hopen _
    · exact Fields.Kept.refl _

/-- Whatever the lines are, turns lead to an end. The induction is on the lines. -/
theorem exists_turns (f : Form) : ∀ (lines : List (List Char)) (answers : Fields), ∃ turns unread last words outcome,
    lines = turns.map (·.line) ++ unread ∧ Turns f answers turns last ∧ Stops f last unread words outcome := by
  intro lines
  induction lines with
  | nil =>
    intro answers
    cases hfatal : (f.discover answers).fatal? with
    | some e => exact ⟨[], [], answers, _, _, rfl, .nil, .fatal hfatal⟩
    | none =>
      cases hopen : (f.discover answers).requirements with
      | nil => exact ⟨[], [], answers, _, _, rfl, .nil, .complete hfatal hopen⟩
      | cons r rest => exact ⟨[], [], answers, _, _, rfl, .nil, .closed hfatal hopen⟩
  | cons line lines ih =>
    intro answers
    cases hfatal : (f.discover answers).fatal? with
    | some e => exact ⟨[], line :: lines, answers, _, _, rfl, .nil, .fatal hfatal⟩
    | none =>
      cases hopen : (f.discover answers).requirements with
      | nil => exact ⟨[], line :: lines, answers, _, _, rfl, .nil, .complete hfatal hopen⟩
      | cons r rest =>
        obtain ⟨turns, unread, last, words, outcome, hlines, hturns, hstops⟩ := ih (Turn.answers ⟨r, line⟩ answers)
        refine ⟨⟨r, line⟩ :: turns, unread, last, words, outcome, ?_, .cons hfatal hopen hturns, hstops⟩
        rw [hlines]
        rfl

end Turns

/-! ### One turn -/

/-- A dialogue that goes on with a new discovery. -/
def resume (f : Form) (c : Collection) (shown : String) (lines : List (List Char)) : Ending :=
  match Collection.rediscover f c with
  | (c, .error e) => ⟨shown, c, .error (.render e)⟩
  | (c, .ok ()) => talk f c shown lines

section Resume
variable {f : Form} {c : Collection}

/-- A discovery that is made again finds the same. -/
theorem rediscover_noting (hfatal : (f.discover c.answers).fatal? = none) :
    Collection.rediscover f (c.noting (f.discover c.answers)) = (c.noting (f.discover c.answers), .ok ()) := by
  refine Collection.rediscover_eq_ok.mpr ⟨hfatal, ?_⟩
  simp only [Collection.noting]
  split <;> rfl

theorem resume_eq_talk (hfatal : (f.discover c.answers).fatal? = none) (shown : String) (lines : List (List Char)) :
    resume f c shown lines = talk f (c.noting (f.discover c.answers)) shown lines := by
  rw [resume, Collection.rediscover_eq_ok.mpr ⟨hfatal, rfl⟩]

theorem talk_line {r : Requirement} (hopen : c.isDone = false) (hcurrent : c.current = .ok r) (shown : String)
    (line : List Char) (lines : List (List Char)) : talk f c shown (line :: lines) =
      match takeLine f c line with
      | (more, d, .error e) => ⟨shown ++ question r ++ more, d, .error (.render e)⟩
      | (more, d, .ok ()) => talk f d (shown ++ question r ++ more) lines := by
  rw [talk, hopen, hcurrent]
  rfl

/-- A line is answered, and then comes the discovery with the answers after the turn. -/
theorem takeLine_turn {t : Turn} {rest : List Requirement} (hphase : c.phase = .collecting)
    (hfatal : (f.discover c.answers).fatal? = none) (hfirst : (f.discover c.answers).requirements = t.asked :: rest) :
    ∃ d : Collection, d.phase = .collecting ∧ d.answers = t.answers c.answers ∧
      takeLine f (c.noting (f.discover c.answers)) t.line = (t.reply, Collection.rediscover f d) := by
  obtain ⟨-, hcurrent⟩ := Collection.current_noting hphase hfirst
  obtain ⟨hnoted, -⟩ := Collection.current_eq_ok.mp hcurrent
  cases hanswer : t.asked.validate (answerOf t.line) with
  | error reasons =>
    refine ⟨c.noting (f.discover c.answers), hnoted, by rw [Turn.answers, hanswer]; rfl, ?_⟩
    -- There is no discovery after a rejected line, but it would find the same.
    rw [rediscover_noting hfatal, Turn.reply]
    simp only [takeLine, Collection.submit, hcurrent, hanswer]
  | ok v =>
    have hrunning : ((c.noting (f.discover c.answers)).store t.asked.name v).running = .ok () :=
      Collection.running_eq_ok.mpr hnoted
    refine ⟨(c.noting (f.discover c.answers)).store t.asked.name v, hnoted, by rw [Turn.answers, hanswer]; rfl, ?_⟩
    rw [Turn.reply]
    simp only [takeLine, Collection.submit, hcurrent, hanswer, Collection.advance, hrunning]

/-- A turn is taken, and then the dialogue goes on with the answers after it. -/
theorem resume_turn {t : Turn} {rest : List Requirement} (hphase : c.phase = .collecting)
    (hfatal : (f.discover c.answers).fatal? = none) (hfirst : (f.discover c.answers).requirements = t.asked :: rest)
    (shown : String) (lines : List (List Char)) : ∃ d : Collection, d.phase = .collecting ∧
      d.answers = t.answers c.answers ∧ resume f c shown (t.line :: lines) = resume f d (shown ++ t.shown) lines := by
  obtain ⟨hopen, hcurrent⟩ := Collection.current_noting hphase hfirst
  obtain ⟨d, hd, hanswers, hline⟩ := takeLine_turn hphase hfatal hfirst
  refine ⟨d, hd, hanswers, ?_⟩
  rw [resume_eq_talk hfatal, talk_line hopen hcurrent, hline, Turn.shown, ← String.append_assoc, resume]
  obtain ⟨e, _ | _⟩ := Collection.rediscover f d
  · rfl
  · rfl

/-- A dialogue stops without reading on. -/
theorem resume_stops {unread : List (List Char)} {words : String} {outcome : Except DialogueError Unit}
    (hphase : c.phase = .collecting) (h : Stops f c.answers unread words outcome) (shown : String) :
    ∃ d : Collection, d.answers = c.answers ∧ resume f c shown unread = ⟨shown ++ words, d, outcome⟩ := by
  cases h with
  | @fatal _ e hfatal =>
    have hround : Collection.rediscover f c = (c, .error e) := by simp only [Collection.rediscover, hfatal]
    exact ⟨c, rfl, by rw [resume, hround, String.append_empty]⟩
  | complete hfatal hnone =>
    have hdone : (c.noting (f.discover c.answers)).isDone = true := by
      simp only [Collection.isDone, Collection.noting, hnone, List.isEmpty_nil, if_true]
      rfl
    refine ⟨c.noting (f.discover c.answers), rfl, ?_⟩
    rw [resume_eq_talk hfatal, talk, if_pos hdone, String.append_empty]
  | closed hfatal hfirst =>
    obtain ⟨hopen, hcurrent⟩ := Collection.current_noting hphase hfirst
    refine ⟨c.noting (f.discover c.answers), rfl, ?_⟩
    rw [resume_eq_talk hfatal, talk, hopen, hcurrent]
    rfl

end Resume

/-! ### Whole dialogues -/

/-- Turns are taken one after the other, and what a dialogue comes to is what it comes to after them. -/
theorem resume_turns {f : Form} {answers last : Fields} {turns : List Turn} (h : Turns f answers turns last) :
    ∀ (c : Collection) (shown : String) (lines : List (List Char)), c.phase = .collecting → c.answers = answers →
      ∃ d : Collection, d.phase = .collecting ∧ d.answers = last ∧
        resume f c shown (turns.map (·.line) ++ lines) = resume f d (shown ++ String.join (turns.map (·.shown))) lines := by
  induction h with
  | nil => exact fun c shown lines hphase hanswers => ⟨c, hphase, hanswers, by simp⟩
  | @cons answers t rest turns last hfatal hfirst h ih =>
    rintro c shown lines hphase rfl
    obtain ⟨d, hd, hanswers, hturn⟩ := resume_turn hphase hfatal hfirst shown (turns.map (·.line) ++ lines)
    obtain ⟨e, he, hlast, hrest⟩ := ih d (shown ++ t.shown) lines hd hanswers
    refine ⟨e, he, hlast, ?_⟩
    rw [List.map_cons, List.cons_append, hturn, hrest, List.map_cons, String.join_cons, String.append_assoc]

theorem run_seeded (f : Form) (seed : Fields) (lines : List (List Char)) : run f (Collection.seeded seed) lines =
    resume f { Collection.seeded seed with phase := .collecting } "" lines := rfl

/-- A dialogue follows the discoveries turn by turn. -/
theorem run_of_turns {f : Form} {seed last : Fields} {turns : List Turn} {unread : List (List Char)} {words : String}
    {outcome : Except DialogueError Unit} (h : Turns f seed turns last) (hstops : Stops f last unread words outcome) :
    ∃ d : Collection, d.answers = last ∧ run f (Collection.seeded seed) (turns.map (·.line) ++ unread) =
      ⟨String.join (turns.map (·.shown)) ++ words, d, outcome⟩ := by
  obtain ⟨c, hphase, rfl, hturns⟩ := resume_turns h { Collection.seeded seed with phase := .collecting } "" unread rfl rfl
  obtain ⟨d, hanswers, hend⟩ := resume_stops hphase hstops ("" ++ String.join (turns.map (·.shown)))
  refine ⟨d, hanswers, ?_⟩
  rw [run_seeded, hturns, hend, String.empty_append]

/-- A dialogue with a collection that has only a seed takes turns, one for each line that it reads, and is what they
    make it: it shows what they show, and it is left with the answers that they lead to. A rejected line is followed by
    the same input again, and no answer is replaced. It ends well just if a discovery on its way finds nothing open and
    nothing fatal, it is cut short by an open input just if the lines run out there, and it fails with an error just if
    a discovery on its way is ended by that; in no case does it matter what the lines after the turns are. -/
theorem run_turns (f : Form) (seed : Fields) (lines : List (List Char)) :
    let ending := run f (Collection.seeded seed) lines
    (∃ turns unread words, lines = turns.map (·.line) ++ unread ∧ Turns f seed turns ending.collection.answers ∧
      Stops f ending.collection.answers unread words ending.outcome ∧
      ending.transcript = String.join (turns.map (·.shown)) ++ words ∧ Fields.Kept seed ending.collection.answers ∧
      ∀ before t u after reasons, turns = before ++ t :: u :: after →
        t.asked.validate (answerOf t.line) = .error reasons → u.asked = t.asked) ∧
    ∀ turns unread last words outcome, lines = turns.map (·.line) ++ unread → Turns f seed turns last →
      Stops f last unread words outcome → ending.outcome = outcome ∧ ending.collection.answers = last ∧
        ending.transcript = String.join (turns.map (·.shown)) ++ words := by
  intro ending
  constructor
  · obtain ⟨turns, unread, last, words, outcome, hlines, hturns, hstops⟩ := exists_turns f lines seed
    obtain ⟨d, rfl, hrun⟩ := run_of_turns hturns hstops
    have hending : ending = ⟨String.join (turns.map (·.shown)) ++ words, d, outcome⟩ := by rw [← hrun, ← hlines]
    rw [hending]
    refine ⟨turns, unread, words, hlines, hturns, hstops, rfl, hturns.kept, ?_⟩
    rintro before t u after reasons rfl hrejected
    exact hturns.asked_again hrejected
  · rintro turns unread last words outcome hlines hturns hstops
    obtain ⟨d, rfl, hrun⟩ := run_of_turns hturns hstops
    have hending : ending = ⟨String.join (turns.map (·.shown)) ++ words, d, outcome⟩ := by rw [← hrun, ← hlines]
    rw [hending]
    exact ⟨rfl, rfl, rfl⟩

/-- The input of the form, which needs an answer. -/
def topic : Requirement := { name := "topic", kind := .text, label := "topic" }

/-- An empty line is rejected, the next one is taken, and the last one is not read. -/
theorem run_turns_topic :
    let ending := run Collection.topicForm (Collection.seeded []) ["\n".toList, "bees\r\n".toList, "wasps\n".toList]
    ending.outcome = .ok () ∧ ending.collection.answers = [("topic", .string "bees")] ∧
      ending.transcript = "topic:   ! a value is required\ntopic: " := by
  intro ending
  have hfirst : (Collection.topicForm.discover []).requirements = [topic] := by decide +kernel
  have hfatal : (Collection.topicForm.discover []).fatal? = none := by decide +kernel
  have hturns : Turns Collection.topicForm [] [⟨topic, "\n".toList⟩, ⟨topic, "bees\r\n".toList⟩]
      [("topic", .string "bees")] := .cons hfatal hfirst (.cons hfatal hfirst .nil)
  have hstops : Stops Collection.topicForm [("topic", .string "bees")] ["wasps\n".toList] "" (.ok ()) :=
    .complete (by decide +kernel) (by decide +kernel)
  obtain ⟨-, hfollows⟩ := run_turns Collection.topicForm [] ["\n".toList, "bees\r\n".toList, "wasps\n".toList]
  obtain ⟨houtcome, hanswers, htranscript⟩ := hfollows _ _ _ _ _ rfl hturns hstops
  exact ⟨houtcome, hanswers, htranscript.trans (by decide +kernel)⟩

end PromptForm.Dialogue
