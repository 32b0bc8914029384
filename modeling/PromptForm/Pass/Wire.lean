import PromptForm.Pass.Result

/-!
# The data form of findings

Errors, discoveries and renderings as values, for readers that are programs. A kind stands before what
belongs to it, and empty lists of errors are left out.
-/

namespace PromptForm

def PropsError.toValue : PropsError → Value
  | .unknownComponent tag => .object [("kind", .string "unknown_component"), ("tag", .string tag)]
  | .invalidProps tag violations =>
    .object [("kind", .string "invalid_props"), ("tag", .string tag),
      ("messages", textList (violations.map Violation.message))]
  | .duplicateInput name => .object [("kind", .string "duplicate_input"), ("name", .string name)]
  | .component tag fault =>
    .object [("kind", .string "component"), ("tag", .string tag), ("message", .string fault.message)]
  | .depthExceeded tag limit =>
    .object [("kind", .string "depth_exceeded"), ("tag", .string tag), ("limit", Value.int limit)]

def Malformed.toValue (m : Malformed) : Value :=
  .object [("expression", .string m.expression), ("offset", Value.int m.offset),
    ("message", .string m.fault.message)]

def ProtocolError.name : ProtocolError → String
  | .notStarted => "not_started"
  | .alreadyStarted => "already_started"
  | .pendingAdvance => "pending_advance"
  | .done => "done"

/-- The kind of an error. -/
def RenderError.kind : RenderError → String
  | .props _ => "props"
  | .malformed _ => "formula"
  | .protocol _ => "iterator"
  | .missingInput _ => "missing_input"

/-- What an error tells beyond its kind. -/
def RenderError.content : RenderError → Value
  | .props e => e.toValue
  | .malformed m => m.toValue
  | .protocol e => .string e.name
  | .missingInput name => .object [("name", .string name)]

def RenderError.toValue (e : RenderError) : Value :=
  .object [("type", .string e.kind), ("error", e.content)]

/-- A field of errors, left out if there are none. -/
def errorsField (errors : List RenderError) : List (String × Value) :=
  if errors.isEmpty then [] else [("errors", .list (errors.map RenderError.toValue))]

def Discovery.toValue (d : Discovery) : Value :=
  .object (("requirements", .list (d.requirements.map Requirement.toValue)) :: errorsField d.errors)

def Rendered.toValue (r : Rendered) : Value :=
  .object ([("ok", .bool r.ok), ("text", .string r.text),
    ("postExecutionActions", .list (r.actions.map Action.toValue))] ++ errorsField r.errors)

end PromptForm
