import PromptForm.Component.Render

/-!
# Registries

What each tag means. The intrinsic tags are always there and cannot be given another meaning; a component
registered under a tag replaces the one that was there.
-/

namespace PromptForm

inductive Handler where
  | intrinsic (i : Intrinsic)
  | component (c : Component)

def Handler.schema : Handler → Schema
  | .intrinsic i => i.schema
  | .component c => c.schema

structure Registry where
  handlers : List (String × Handler)

namespace Registry

/-- Only the intrinsic tags. -/
def intrinsics : Registry := ⟨Fields.ofList (Intrinsic.all.map fun i => (i.tag, .intrinsic i))⟩

def handler? (r : Registry) (tag : String) : Option Handler := Fields.get? tag r.handlers

def contains (r : Registry) (tag : String) : Bool := (r.handler? tag).isSome

/-- Whether the tag names a component that asks for an input. -/
def asksInput (r : Registry) (tag : String) : Bool :=
  match r.handler? tag with
  | some (.component c) => c.asksInput
  | _ => false

def isIntrinsic (r : Registry) (tag : String) : Bool :=
  match r.handler? tag with
  | some (.intrinsic _) => true
  | _ => false

/-- Gives a tag the meaning of a component. -/
def register (r : Registry) (tag : String) (c : Component) : Except PropsError Registry :=
  if r.isIntrinsic tag then .error (.component tag .fixedTag)
  else .ok ⟨Fields.insert tag (.component c) r.handlers⟩

/-- Gives a tag the meaning of a fixed node, with a schema written as data. -/
def registerFixed (r : Registry) (tag : String) (schema : Value) (node : Node) :
    Except PropsError Registry :=
  if r.isIntrinsic tag then .error (.component tag .fixedTag)
  else
    match Schema.ofValue? schema with
    | some s => r.register tag (.fixed s node)
    | none => .error (.component tag .invalidSchema)

/-- The handler of a tag, once its props fit. -/
def resolve (r : Registry) (tag : String) (props : Fields) : Except PropsError Handler :=
  match r.handler? tag with
  | none => .error (.unknownComponent tag)
  | some h =>
    match h.schema.violations (.object props) with
    | [] => .ok h
    | violations => .error (.invalidProps tag violations)

/-- The components that every registry starts with. -/
def builtins : List (String × Component) :=
  [("Prompt", .prompt), ("Role", .role), ("Format", .format), ("Constraints", .constraints),
   ("Constraint", .constraint), ("Steps", .steps), ("Step", .listItem), ("Criterion", .listItem),
   ("Examples", .examples), ("Example", .example_), ("Task", .simpleSection "task"),
   ("Context", .simpleSection "context"), ("Audience", .simpleSection "audience"),
   ("Tone", .simpleSection "tone"), ("Objective", .simpleSection "objective"),
   ("SuccessCriteria", .simpleSection "success-criteria"), ("Hostname", .hostFact .hostname),
   ("Username", .hostFact .username), ("Cwd", .hostFact .cwd), ("DateTime", .dateTime),
   ("Timestamp", .timestamp), ("Code", .code), ("Json", .json), ("PostExecution", .postExecution),
   ("ReviewFile", .reviewFile), ("OpenUrl", .openUrl), ("RunCommand", .runCommand)] ++
  InputKind.all.map fun kind => (Component.askTag kind, .ask kind)

/-- The builtin registry. -/
def standard : Registry :=
  ⟨Fields.insertAll (builtins.map fun (tag, c) => (tag, .component c)) intrinsics.handlers⟩

end Registry
end PromptForm
