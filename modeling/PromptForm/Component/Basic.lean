import PromptForm.Action
import PromptForm.Error
import PromptForm.Environment.Context
import PromptForm.Schema.Reader
import PromptForm.Tree.Wire
import PromptForm.Calendar.Format

/-!
# Components

The components that tags name, and the five tags that the walk interprets itself. A component turns its
props and children into another node. Its props have been checked against its schema before.
-/

namespace PromptForm

/-- The tags that the walk interprets. -/
inductive Intrinsic where
  | branch
  | loop
  | section
  | item
  | fragment
deriving DecidableEq, Repr

namespace Intrinsic

def all : List Intrinsic := [.branch, .loop, .section, .item, .fragment]

def tag : Intrinsic → String
  | .branch => "If"
  | .loop => "ForEach"
  | .section => "Section"
  | .item => "Item"
  | .fragment => "Fragment"

end Intrinsic

/-- Facts about the host that a prompt can print. -/
inductive HostFact where
  | hostname | username | cwd
deriving DecidableEq, Repr

def HostFact.read (host : HostFacts) : HostFact → String
  | .hostname => host.hostname
  | .username => host.username
  | .cwd => host.cwd

inductive Component where
  | prompt
  | role
  | format
  | constraints
  | constraint
  | steps
  | listItem
  | examples
  | example_
  /-- A section around the children, with this name. -/
  | simpleSection (name : String)
  | ask (kind : InputKind)
  | hostFact (fact : HostFact)
  | dateTime
  | timestamp
  | code
  | json
  | postExecution
  | reviewFile
  | openUrl
  | runCommand
  /-- Always the same node, whatever the props. -/
  | fixed (schema : Schema) (node : Node)

/-- What a component sees when it renders. -/
structure RenderInput where
  tag : String
  props : Fields
  children : List Node
  /-- The answer of an input that has one. -/
  resolved : Option Value

namespace Fields

def text? (key : String) (props : Fields) : Option String := (get? key props).bind Value.toString?

def flag (key : String) (props : Fields) : Bool := ((get? key props).bind Value.toBool?).getD false

def count? (key : String) (props : Fields) : Option Nat := (get? key props).bind Value.toCount?

end Fields

namespace Component

/-- Whether the component asks for an input named by its props. -/
def asksInput : Component → Bool
  | .ask _ => true
  | _ => false

/-- A section of a name around one node. -/
def sectionOf (name : String) (child : Node) : Node :=
  .element Intrinsic.section.tag [("name", .string name)] [child]

end Component
end PromptForm
