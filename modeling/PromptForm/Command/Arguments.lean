/-!
# Arguments of a command line

Flags stand alone; options have a value, after an equals sign or as the next argument. Every flag may be
given once, and so may an option that does not repeat. A value of its own never begins with a dash,
unless it is just a dash.
-/

namespace PromptForm.Command

/-- Why the arguments name nothing to be done. -/
inductive Refusal where
  /-- They do not fit; the usage is shown as an error. -/
  | usage
  /-- They ask for help. -/
  | help
deriving DecidableEq, Repr

/-- An option that a command takes. -/
structure OptionSpec where
  name : String
  /-- Whether it may be given several times. -/
  repeats : Bool := false
  /-- Whether its value may be empty. -/
  emptyValue : Bool := false
deriving DecidableEq, Repr

/-- The flags and options that a command takes. -/
structure Spec where
  /-- Flags, each with the letter that stands for it, if there is one. -/
  flags : List (String × Option Char)
  options : List OptionSpec
deriving DecidableEq, Repr

/-- What was given. -/
structure Given where
  flags : List String := []
  /-- The options with their values, in order. -/
  options : List (String × String) := []
deriving DecidableEq, Repr

namespace Given

def has (g : Given) (flag : String) : Bool := g.flags.contains flag

/-- All values of an option, in order. -/
def values (g : Given) (option : String) : List String :=
  g.options.filterMap fun (name, value) => if name = option then some value else none

def value? (g : Given) (option : String) : Option String := (g.values option).head?

/-- Takes a flag that was not given before. -/
def addFlag (g : Given) (flag : String) : Except Refusal Given :=
  if g.has flag then .error .usage else .ok { g with flags := flag :: g.flags }

/-- Takes an option with its value. -/
def addOption (g : Given) (spec : OptionSpec) (value : String) : Except Refusal Given :=
  if value = "" && !spec.emptyValue then .error .usage
  else if !spec.repeats && !(g.values spec.name).isEmpty then .error .usage
  else .ok { g with options := g.options ++ [(spec.name, value)] }

/-- Takes a row of letters behind one dash. -/
def addLetters (spec : Spec) : Given → List Char → Except Refusal Given
  | g, [] => .ok g
  | g, c :: cs =>
    if c = 'h' then .error .help
    else
      match spec.flags.find? (·.2 == some c) with
      | none => .error .usage
      | some (flag, _) =>
        match g.addFlag flag with
        | .error e => .error e
        | .ok g => addLetters spec g cs

end Given

/-- Whether an argument can be the value of the option before it. -/
def canBeValue (arg : String) : Bool := arg = "-" || !arg.startsWith "-"

/-- A long argument as its name and the value after its equals sign. -/
def splitEquals (cs : List Char) : String × Option String :=
  (String.ofList (cs.takeWhile (· != '=')),
    match cs.dropWhile (· != '=') with
    | _ :: value => some (String.ofList value)
    | [] => none)

/-- Reads the arguments of a command in turn; the first one that does not fit decides. -/
def Spec.read (spec : Spec) (g : Given) : List String → Except Refusal Given
  | [] => .ok g
  | arg :: rest =>
    match arg.toList with
    -- Two dashes end the options, and no command takes anything else.
    | ['-', '-'] => if rest.isEmpty then .ok g else .error .usage
    | '-' :: '-' :: word =>
      let (name, value?) := splitEquals word
      match spec.options.find? (·.name == name) with
      | some option =>
        match value?, rest with
        | some value, rest =>
          match g.addOption option value with
          | .error e => .error e
          | .ok g => Spec.read spec g rest
        | none, value :: rest =>
          if canBeValue value then
            match g.addOption option value with
            | .error e => .error e
            | .ok g => Spec.read spec g rest
          else .error .usage
        | none, [] => .error .usage
      | none =>
        if value?.isSome then .error .usage
        else if name = "help" then .error .help
        else if spec.flags.any (·.1 == name) then
          match g.addFlag name with
          | .error e => .error e
          | .ok g => Spec.read spec g rest
        else .error .usage
    | '-' :: letter :: letters =>
      match Given.addLetters spec g (letter :: letters) with
      | .error e => .error e
      | .ok g => Spec.read spec g rest
    | _ => .error .usage

end PromptForm.Command
