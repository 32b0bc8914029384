import PromptForm.Collection.Completion
import PromptForm.Collection.Dialogue
import PromptForm.Command.Basic
import PromptForm.Environment.Context
import PromptForm.Pass.Wire
import PromptForm.Tree.Store

/-!
# Running commands

A command takes a disk, facts about the host and lines of input, and leaves what it printed, an exit code
and a disk. Results go to the output; questions, errors and the fault that stopped a command go to the
notes.
-/

namespace PromptForm

/-- What stops a command. -/
inductive CommandFault where
  /-- An answer without an equals sign. -/
  | noValue (answer : String)
  | noName (answer : String)
  | alreadyThere (path : Disk.Path)
  | config (fault : StoreFault)
  | tree (fault : TreeFault)
  | dialogue (error : DialogueError)
  | render (error : RenderError)
deriving DecidableEq

def CommandFault.message : CommandFault → String
  | .noValue answer => "invalid --input '" ++ answer ++ "': expected NAME=VALUE"
  | .noName answer => "invalid --input '" ++ answer ++ "': empty name"
  | .alreadyThere path => path.text ++ " already exists (use --force to overwrite)"
  | .config fault => fault.message
  | .tree fault => fault.message
  | .dialogue e => e.message
  | .render e => e.message

/-- Exit codes: all went well; something is invalid; a rendering is incomplete. -/
inductive ExitCode where
  | ok
  | invalid
  | incomplete
deriving DecidableEq, Repr

def ExitCode.toNat : ExitCode → Nat
  | .ok => 0
  | .invalid => 1
  | .incomplete => 2

/-- What a command works with. -/
structure World where
  disk : Disk
  host : HostFacts
  /-- The lines that can be read, each with its end. -/
  lines : List (List Char)

/-- What a command leaves behind. -/
structure Report where
  disk : Disk
  output : String := ""
  notes : String := ""
  /-- The exit code, or what stopped the command. -/
  outcome : Except CommandFault ExitCode

namespace Report

/-- A report about a command that was stopped before it printed anything but notes. -/
def stopped (disk : Disk) (fault : CommandFault) (notes : String) : Report :=
  { disk, notes, outcome := .error fault }

def code (r : Report) : Nat :=
  match r.outcome with
  | .ok code => code.toNat
  | .error _ => ExitCode.invalid.toNat

/-- The notes with the fault that stopped the command. -/
def allNotes (r : Report) : String :=
  match r.outcome with
  | .ok _ => r.notes
  | .error fault => r.notes ++ fault.message ++ "\n"

end Report

namespace Command

/-! ### Answers on the command line -/

/-- The name and the value of an answer. The value is data text if it reads as such, else a string. -/
def answer? (s : String) : Except CommandFault (String × Value) :=
  let cs := s.toList
  match cs.dropWhile (· != '=') with
  | [] => .error (.noValue s)
  | _ :: value =>
    let name := Text.trim (cs.takeWhile (· != '='))
    let text := String.ofList value
    if name.isEmpty then .error (.noName s)
    else .ok (String.ofList name, (Value.ofText? text).getD (.string text))

/-- All answers; of two for one name the last counts. -/
def answersOf (given : List String) : Except CommandFault Fields := do
  let pairs ← given.mapM answer?
  .ok (Fields.ofList pairs)

/-! ### What commands do -/

/-- A form and the answers given for it. -/
structure Job where
  form : Form
  answers : Fields

/-- Reads the answers, the configuration and the tree, in this order. -/
def job (w : World) (options : TreeOptions) (trim : Option Bool) : Except CommandFault Job := do
  let answers ← answersOf options.answers
  let config ← (Config.load w.disk options.config).mapError .config
  let tree ← (Node.load w.disk options.tree).mapError .tree
  .ok ⟨⟨tree, Registry.standard, (Context.ofConfig config w.host).withTrim trim⟩, answers⟩

def runInit (w : World) (path : Disk.Path) (overwrite : Bool) : Report :=
  if !overwrite && w.disk.has path then .stopped w.disk (.alreadyThere path) ""
  else
    match Config.save {} w.disk path with
    | (disk, .error fault) => .stopped disk (.config fault) ""
    | (disk, .ok ()) => { disk, output := path.text ++ "\n", outcome := .ok .ok }

def runInputs (w : World) (options : TreeOptions) : Report :=
  match job w options none with
  | .error fault => .stopped w.disk fault ""
  | .ok j =>
    let found := j.form.discover j.answers
    { disk := w.disk
      output := found.toValue.pretty ++ "\n"
      outcome := .ok (if found.fatal?.isSome then .invalid else .ok) }

/-- The answers to render with, after the notes that finding them leaves. -/
def fill (w : World) (j : Job) : Filling → String × Except CommandFault Fields
  | .asGiven => ("", .ok j.answers)
  | .defaults => ("", (Collection.withDefaults j.form j.answers).mapError .render)
  | .dialogue =>
    let ending := Dialogue.run j.form (Collection.seeded j.answers) w.lines
    (ending.transcript, (ending.outcome.map fun _ => ending.collection.answers).mapError .dialogue)

/-- A rendering is invalid if a fatal error ended it and incomplete if other errors did. -/
def codeOf (r : Rendered) : ExitCode :=
  if r.ok then .ok else if r.errors.any RenderError.isFatal then .invalid else .incomplete

/-- The errors of a rendering, one on a line. -/
def errorNotes (errors : List RenderError) : String :=
  String.join (errors.map fun e => "error: " ++ e.message ++ "\n")

def runRender (w : World) (options : TreeOptions) (filling : Filling) (asData keepBlanks : Bool) : Report :=
  match job w options (if keepBlanks then some false else none) with
  | .error fault => .stopped w.disk fault ""
  | .ok j =>
    match fill w j filling with
    | (notes, .error fault) => .stopped w.disk fault notes
    | (notes, .ok answers) =>
      let rendered := j.form.render answers
      { disk := w.disk
        output := (if asData then rendered.toValue.pretty else rendered.text) ++ "\n"
        notes := if asData then notes else notes ++ errorNotes rendered.errors
        outcome := .ok (codeOf rendered) }

/-- The program's name and version. -/
def versionText : String := "promptree 0.1.0"

/-- Runs a command. -/
def run (w : World) (command : Command) : Report :=
  match command with
  | .version => { disk := w.disk, output := versionText ++ "\n", outcome := .ok .ok }
  | .init path overwrite => runInit w path overwrite
  | .inputs options => runInputs w options
  | .render options filling asData keepBlanks => runRender w options filling asData keepBlanks

end Command
end PromptForm
