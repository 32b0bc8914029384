import PromptForm.Command.Arguments
import PromptForm.Environment.Store

/-!
# Commands

The command line has three commands: `init` writes an empty configuration, `inputs` lists the inputs that
a tree still needs, and `render` gives its text.
-/

namespace PromptForm

/-- What `inputs` and `render` work on. -/
structure TreeOptions where
  tree : Disk.Path
  config : Disk.Path
  /-- Answers as they were given, name and value in one text. -/
  answers : List String
deriving DecidableEq, Repr

/-- How `render` comes by answers that were not given. -/
inductive Filling where
  /-- It does without them. -/
  | asGiven
  /-- It takes defaults and empty values. -/
  | defaults
  /-- It asks. -/
  | dialogue
deriving DecidableEq, Repr

inductive Command where
  | version
  | init (path : Disk.Path) (overwrite : Bool)
  | inputs (options : TreeOptions)
  | render (options : TreeOptions) (filling : Filling) (asData keepBlanks : Bool)
deriving DecidableEq, Repr

namespace Command

def initSpec : Spec where
  flags := [("force", some 'f')]
  options := [⟨"path", false, false⟩]

def treeOptions : List OptionSpec := [⟨"tree", false, false⟩, ⟨"env", false, false⟩, ⟨"input", true, true⟩]

def inputsSpec : Spec := ⟨[], treeOptions⟩

def renderSpec : Spec where
  flags := [("non-interactive", none), ("interactive", none), ("json", none), ("no-trim", none)]
  options := treeOptions

/-- The path that an option gives. -/
def pathOr (g : Given) (option : String) (default : Disk.Path) : Disk.Path :=
  ((g.value? option).map Disk.Path.mk).getD default

/-- The tree has no default. -/
def treeOptionsOf (g : Given) : Except Refusal TreeOptions :=
  match g.value? "tree" with
  | none => .error .usage
  | some tree => .ok ⟨⟨tree⟩, pathOr g "env" Config.defaultPath, g.values "input"⟩

/-- A dialogue and no dialogue cannot both be asked for. -/
def fillingOf (g : Given) : Except Refusal Filling :=
  match g.has "interactive", g.has "non-interactive" with
  | true, true => .error .usage
  | true, false => .ok .dialogue
  | false, true => .ok .defaults
  | false, false => .ok .asGiven

/-- Help on at most one command. -/
def helpOn : List String → Refusal
  | [] => .help
  | [command] => if ["init", "inputs", "render", "help"].contains command then .help else .usage
  | _ => .usage

/-- The command that some arguments name. -/
def ofArguments? : List String → Except Refusal Command
  | [] => .error .usage
  | "init" :: args => do
    let g ← initSpec.read {} args
    .ok (.init (pathOr g "path" Config.defaultPath) (g.has "force"))
  | "inputs" :: args => do
    let g ← inputsSpec.read {} args
    .ok (.inputs (← treeOptionsOf g))
  | "render" :: args => do
    let g ← renderSpec.read {} args
    let filling ← fillingOf g
    .ok (.render (← treeOptionsOf g) filling (g.has "json") (g.has "no-trim"))
  | "help" :: args => .error (helpOn args)
  | arg :: _ =>
    if arg = "--version" || arg.startsWith "-V" then .ok .version
    else if arg = "--help" || arg.startsWith "-h" then .error .help
    else .error .usage

end Command
end PromptForm
