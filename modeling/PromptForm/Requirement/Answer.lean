import PromptForm.Number.Layout

/-!
# Rejected answers

Why an answer is not taken, with the wording of each reason. Bounds of numbers are written plainly.
-/

namespace PromptForm

inductive AnswerFault where
  | blank
  | notNumber
  | notYesNo
  | notOptions
  | notText
  | notDate
  | noMatch (pattern : String)
  | invalidPattern
  | below (least : Float)
  | above (most : Float)
  | shorter (least : Nat)
  | longer (most : Nat)
  | notOption (options : List String)
  | notAmong (picked : String) (options : List String)
  | tooFew (least : Nat)
  | tooMany (most : Nat)
deriving DecidableEq

def AnswerFault.message : AnswerFault → String
  | .blank => "a value is required"
  | .notNumber => "must be a number"
  | .notYesNo => "must be yes or no"
  | .notOptions => "must be a list of options"
  | .notText => "must be text"
  | .notDate => "must be a date (YYYY-MM-DD)"
  | .noMatch pattern => "must match pattern " ++ pattern
  | .invalidPattern => "invalid pattern"
  | .below least => "must be at least " ++ Number.Layout.plain.text least
  | .above most => "must be at most " ++ Number.Layout.plain.text most
  | .shorter least => "must be at least " ++ toString least ++ " characters"
  | .longer most => "must be at most " ++ toString most ++ " characters"
  | .notOption options => "must be one of: " ++ ", ".intercalate options
  | .notAmong picked options => "'" ++ picked ++ "' is not one of: " ++ ", ".intercalate options
  | .tooFew least => "pick at least " ++ toString least ++ " option(s)"
  | .tooMany most => "pick at most " ++ toString most ++ " option(s)"

/-- A reason, and the name of the input it is about. -/
structure Rejection where
  field : String
  fault : AnswerFault
deriving DecidableEq

def Rejection.message (r : Rejection) : String := r.field ++ ": " ++ r.fault.message

end PromptForm
