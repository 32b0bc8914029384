import PromptForm.Component.Props

/-!
# Default sections

A prompt fills in three kinds of section. For each kind the first source that applies wins: a child of
that kind, then the slot of that kind, then the built-in default, which a flag can switch off. The role
comes before the children, the others after them.
-/

namespace PromptForm.Component

/-- The kinds of section that a prompt fills in, in output order. -/
inductive DefaultKind where
  | role | format | constraints
deriving DecidableEq, Repr

namespace DefaultKind

def tag : DefaultKind → String
  | .role => "Role"
  | .format => "Format"
  | .constraints => "Constraints"

def slot : DefaultKind → String
  | .role => "role"
  | .format => "format"
  | .constraints => "constraints"

/-- The prop that switches the built-in default off. -/
def omitFlag : DefaultKind → String
  | .role => "noRole"
  | .format => "noFormat"
  | .constraints => "noConstraints"

/-- One constraint of the built-in default. -/
def constraint (strength text : String) : Node :=
  .element "Constraint" [("type", .string strength)] [.text text]

def builtin : DefaultKind → Node
  | .role => .element "Role" [] []
  | .format => .element "Format" [] []
  | .constraints =>
    .element "Constraints" [] [
      constraint "must" "Be accurate and do not invent facts, names or sources.",
      constraint "should" "Keep the response focused on the task."]

/-- The value of the slot of a kind. -/
def slotValue? (kind : DefaultKind) (props : Fields) : Option Value :=
  ((Fields.get? "slots" props).bind Value.toFields?).bind (Fields.get? kind.slot)

/-- A slot node as a section of its kind. -/
def wrapped (kind : DefaultKind) (node : Node) : Node :=
  if node.tag? = some kind.tag then node else .element kind.tag [] [node]

/-- Whether the built-in default is switched off. -/
def isOmitted (kind : DefaultKind) (props : Fields) : Bool :=
  Fields.flag "bare" props || Fields.flag kind.omitFlag props

/-- The section that a prompt adds for a kind, if any. -/
def addition (kind : DefaultKind) (input : RenderInput) : Except PropsError (List Node) :=
  -- Beside a child of the kind the slot is not even read.
  if (Node.flatten input.children).any fun child => child.tag? = some kind.tag then .ok []
  else
    match kind.slotValue? input.props with
    | some v =>
      match Node.ofValue? v with
      | some node => .ok [kind.wrapped node]
      | none => .error (.component input.tag (.unreadableSlot kind.slot))
    | none => .ok (if kind.isOmitted input.props then [] else [kind.builtin])

end DefaultKind

/-- The children of a prompt with the sections that it adds. -/
def renderPrompt (input : RenderInput) : Except PropsError Node := do
  let role ← DefaultKind.addition .role input
  let format ← DefaultKind.addition .format input
  let constraints ← DefaultKind.addition .constraints input
  return .fragment (role ++ input.children ++ format ++ constraints)

end PromptForm.Component
