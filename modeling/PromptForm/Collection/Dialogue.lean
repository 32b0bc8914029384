import PromptForm.Collection.Basic

/-!
# Collecting answers in a dialogue

A prompt line asks for the current input, one line of text answers it. A rejected answer is answered with
its reasons, and the same input is asked again.
-/

namespace PromptForm

/-- Why a dialogue ended before its collection was done. -/
inductive DialogueError where
  | render (error : RenderError)
  /-- The lines ran out at an input. -/
  | closed (name : String)
deriving DecidableEq

def DialogueError.message : DialogueError → String
  | .render e => e.message
  | .closed name => "input closed before '" ++ name ++ "' was answered"

namespace Dialogue

/-- What a validator tells about the answers it takes. -/
def hint? : Validator → Option String
  | .oneOf options => some ("/".intercalate options)
  | .subsetOf options _ _ => some ("/".intercalate options)
  | .range (some min) (some max) =>
    some (Number.Layout.plain.text min ++ "-" ++ Number.Layout.plain.text max)
  | _ => none

/-- All hints about the answers of an input, its default last. -/
def hints (r : Requirement) : List String :=
  r.validators.filterMap hint? ++ (r.default.map fun v => "default: " ++ v.display).toList

/-- The question for an input. -/
def question (r : Requirement) : String :=
  let description := (r.description.map (· ++ "\n")).getD ""
  let hint := if (hints r).isEmpty then "" else " [" ++ ", ".intercalate (hints r) ++ "]"
  description ++ r.label ++ hint ++ ": "

/-- The lines of an input text, each with the newline that ends it. -/
def splitLines (cs : List Char) : List (List Char) :=
  match Text.splitBy (· == '\n') cs with
  | [] => []
  | pieces =>
    pieces.dropLast.map (· ++ ['\n']) ++ (pieces.getLast?.filter (!·.isEmpty)).toList

/-- The answer on a line, without the line's end. -/
def answerOf (line : List Char) : Value :=
  .string (String.ofList (line.reverse.dropWhile fun c => c == '\r' || c == '\n').reverse)

/-- The reasons against an answer as they are shown. -/
def objections (reasons : List Rejection) : String :=
  String.join (reasons.map fun r => "  ! " ++ r.fault.message ++ "\n")

/-- Takes a line as the answer of the current input: what is shown, and how the collection goes on. -/
def takeLine (f : Form) (c : Collection) (line : List Char) :
    String × Collection × Except RenderError Unit :=
  match c.submit (answerOf line) with
  | (c, .error e) => ("", c, .error (.protocol e))
  | (c, .ok (.rejected reasons)) => (objections reasons, c, .ok ())
  | (c, .ok .accepted) => ("", Collection.advance f c)

/-- What a dialogue leaves behind. -/
structure Ending where
  /-- All that was shown. -/
  transcript : String
  collection : Collection
  outcome : Except DialogueError Unit

/-- A dialogue over the lines of its input, at most one question for a line and one more. -/
def talk (f : Form) (c : Collection) (shown : String) (lines : List (List Char)) : Ending :=
  if c.isDone then ⟨shown, c, .ok ()⟩
  else
    match c.current with
    | .error e => ⟨shown, c, .error (.render (.protocol e))⟩
    | .ok r =>
      let shown := shown ++ question r
      match lines with
      | [] => ⟨shown, c, .error (.closed r.name)⟩
      | line :: rest =>
        match takeLine f c line with
        | (more, c, .error e) => ⟨shown ++ more, c, .error (.render e)⟩
        | (more, c, .ok ()) => talk f c (shown ++ more) rest

/-- A dialogue from where a collection stands; one that has not started starts first. -/
def run (f : Form) (c : Collection) (lines : List (List Char)) : Ending :=
  if c.phase = .notStarted then
    match Collection.start f c with
    | (c, .error e) => ⟨"", c, .error (.render e)⟩
    | (c, .ok ()) => talk f c "" lines
  else talk f c "" lines

end Dialogue
end PromptForm
