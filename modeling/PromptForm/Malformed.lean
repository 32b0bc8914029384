import PromptForm.Condition.Fault
import PromptForm.Text.Quoted

/-!
# Malformed expressions

The error of a condition or a template that cannot be used: the expression, the byte at which it goes
wrong, and the cause.
-/

namespace PromptForm

/-- Why a template cannot be rendered. -/
inductive TemplateFault where
  | badSyntax
  | undefinedValue
  | unknownFilter
  | unknownFunction
  | unknownMethod
  | unknownTest
  | missingArgument
  | tooManyArguments
  /-- A pattern of names over something of another length. -/
  | cannotUnpack
  | invalidOperation
deriving DecidableEq, Repr

def TemplateFault.message : TemplateFault → String
  | .badSyntax => "template: syntax error"
  | .undefinedValue => "template: undefined value"
  | .unknownFilter => "template: unknown filter"
  | .unknownFunction => "template: unknown function"
  | .unknownMethod => "template: unknown method"
  | .unknownTest => "template: unknown test"
  | .missingArgument => "template: missing argument"
  | .tooManyArguments => "template: too many arguments"
  | .cannotUnpack => "template: cannot unpack"
  | .invalidOperation => "template: invalid operation"

inductive ExpressionFault where
  | condition (fault : ConditionFault)
  | template (fault : TemplateFault)
deriving DecidableEq, Repr

def ExpressionFault.message : ExpressionFault → String
  | .condition fault => fault.message
  | .template fault => fault.message

structure Malformed where
  expression : String
  offset : Nat
  fault : ExpressionFault
deriving DecidableEq, Repr

def Malformed.message (m : Malformed) : String :=
  "malformed expression " ++ Text.reportQuoted m.expression ++ " at offset " ++ toString m.offset ++ ": " ++
    m.fault.message

/-- A template is at fault as a whole. -/
def Malformed.ofTemplate (template : String) (fault : TemplateFault) : Malformed :=
  ⟨template, 0, .template fault⟩

end PromptForm
