/-!
# What can be wrong with a condition

The causes for which a text is no condition, and the wording of each.
-/

namespace PromptForm

inductive ConditionFault where
  /-- The condition is neither text nor a boolean. -/
  | notText
  /-- Another token has to stand here. -/
  | expected (token : String)
  /-- A character that cannot stand here. -/
  | unexpected (c : Char)
  /-- The text ends inside an operand. -/
  | endOfText
  /-- One equals sign in a boolean expression. -/
  | singleEquals
  | unterminatedText
  | invalidNumber (text : String)
  | invalidName (text : String)
  /-- A conjunction or disjunction of nothing. -/
  | noArguments (function : String)
  /-- A function of one argument with none or several. -/
  | notOneArgument (function : String)
  | unknownFunction (name : String)
deriving DecidableEq, Repr

def ConditionFault.message : ConditionFault → String
  | .notText => "condition must be a string or a boolean"
  | .expected token => "expected '" ++ token ++ "'"
  | .unexpected c => "unexpected '" ++ String.singleton c ++ "'"
  | .endOfText => "unexpected end of expression"
  | .singleEquals => "use '==' for equality"
  | .unterminatedText => "unterminated string literal"
  | .invalidNumber text => "invalid number '" ++ text ++ "'"
  | .invalidName text => "invalid name '" ++ text ++ "'"
  | .noArguments function => function ++ " needs at least one argument"
  | .notOneArgument function => function ++ " takes exactly one argument"
  | .unknownFunction name => "unknown function '" ++ name ++ "'"

end PromptForm
