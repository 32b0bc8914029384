import PromptForm.Component.Props

/-!
# Inputs

The requirement that an input declares through its props.
-/

namespace PromptForm.Component

/-- The tag of the inputs of a kind. -/
def askTag : InputKind → String
  | .text => "Ask.Text"
  | .editor => "Ask.Editor"
  | .secret => "Ask.Secret"
  | .number => "Ask.Number"
  | .select => "Ask.Select"
  | .multiSelect => "Ask.MultiSelect"
  | .confirm => "Ask.Confirm"
  | .date => "Ask.Date"
  | .file => "Ask.File"
  | .path => "Ask.Path"
  | .rating => "Ask.Rating"

/-- The value that an option stands for. -/
def optionValue? : Value → Option String
  | .string s => some s
  | .object fields => Fields.text? "value" fields
  | _ => none

def optionValues (props : Fields) : List String :=
  (((Fields.get? "options" props).bind Value.toList?).getD []).filterMap optionValue?

def float? (key : String) (props : Fields) : Option Float := (Fields.get? key props).bind Value.toFloat?

/-- The highest rating where none is declared. -/
def defaultRatingMax : Float := 5

/-- A validator that at least one bound calls for. -/
def ifBounded {α : Type} (make : Option α → Option α → Validator) (min max : Option α) : List Validator :=
  if min.isSome || max.isSome then [make min max] else []

def validators (kind : InputKind) (props : Fields) : Except ComponentFault (List Validator) :=
  match kind with
  | .text | .editor | .secret =>
    let lengths := ifBounded .length (Fields.count? "minLength" props) (Fields.count? "maxLength" props)
    match Fields.text? "pattern" props with
    | none => .ok lengths
    | some source =>
      if (Pattern.ofText? source).isSome then .ok (.pattern source :: lengths) else .error .invalidPattern
  | .number => .ok (ifBounded .range (float? "min" props) (float? "max" props))
  | .rating => .ok [.range (some 1) (some ((float? "max" props).getD defaultRatingMax))]
  | .select => .ok [.oneOf (optionValues props)]
  | .multiSelect =>
    .ok [.subsetOf (optionValues props) (Fields.count? "min" props) (Fields.count? "max" props)]
  | .confirm | .date | .file | .path => .ok []

def askRequirement (kind : InputKind) (props : Fields) : Except PropsError Requirement :=
  match Fields.text? "name" props with
  | none => .error (.component (askTag kind) .missingName)
  | some name =>
    match validators kind props with
    | .error fault => .error (.component (askTag kind) fault)
    | .ok validators =>
      .ok {
        name
        kind
        label := (Fields.text? "label" props).getD name
        description := Fields.text? "description" props
        required := ((Fields.get? "required" props).bind Value.toBool?).getD true
        default := (Fields.get? "default" props).filter fun v => !v.isNull
        validators }

/-- The input that a component asks for, if it is one that asks. -/
def requirement (c : Component) (props : Fields) : Except PropsError (Option Requirement) :=
  match c with
  | .ask kind => (askRequirement kind props).map some
  | _ => .ok none

end PromptForm.Component
