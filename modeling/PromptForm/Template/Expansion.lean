import PromptForm.Template.Reader
import PromptForm.Template.Render
import PromptForm.Scope

/-!
# Text with templates in it

Author text that holds an opening mark is a template and expands to what it prints; other text is taken as
it is. What a template prints is not read again.
-/

namespace PromptForm.Template

/-- The fields of an object as the meaning of names. -/
def meaningOf (fields : Fields) : Meaning := fun n => (Fields.get? n fields).map Datum.ofValue

/-- The text that author text stands for. -/
def expand (fields : Fields) (source : String) : Except Malformed String :=
  if isMarked source then
    match ofText? source with
    | none => .error (Malformed.ofTemplate source .badSyntax)
    | some t => (t.render (meaningOf fields)).mapError (Malformed.ofTemplate source)
  else .ok source

/-- The names that author text reads. -/
def namesIn (source : String) : Except Malformed (List String) :=
  if isMarked source then
    match ofText? source with
    | none => .error (Malformed.ofTemplate source .badSyntax)
    | some t => .ok t.reads
  else .ok []

/-- Author text that is no template stands for itself. -/
theorem expand_of_not_marked {source : String} (fields : Fields) (h : isMarked source = false) :
    expand fields source = .ok source := by simp [expand, h]

end PromptForm.Template
