import PromptForm.Pass.Walk

/-!
# What passes find

Discovery tells which inputs a tree still needs with the answers so far; rendering gives its text.
-/

namespace PromptForm

structure Discovery where
  /-- The inputs without an answer that can be reached, in document order. -/
  requirements : List Requirement
  errors : List RenderError
deriving DecidableEq

/-- The error that ended the pass, if one did. -/
def Discovery.fatal? (d : Discovery) : Option RenderError := d.errors.find? RenderError.isFatal

/-- The inputs that a tree still needs. -/
def discover (tree : Node) (registry : Registry) (ctx : Context) (answers : Fields) : Discovery :=
  let draft := Setting.run ⟨⟨registry, ctx⟩, .discovery⟩ tree answers
  ⟨draft.requirements, draft.allErrors⟩

structure Rendered where
  text : String
  actions : List Action
  errors : List RenderError
deriving DecidableEq

/-- A rendering without errors. -/
def Rendered.ok (r : Rendered) : Bool := r.errors.isEmpty

/-- The text of a tree with the answers put in. -/
def render (tree : Node) (registry : Registry) (ctx : Context) (answers : Fields) : Rendered :=
  let draft := Setting.run ⟨⟨registry, ctx⟩, .final⟩ tree answers
  ⟨String.ofList (Output.normalForm ctx.trim draft.text), draft.actions, draft.allErrors⟩

end PromptForm
