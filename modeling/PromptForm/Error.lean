import PromptForm.Malformed
import PromptForm.Schema.Violation

/-!
# Errors of a render

A props error spoils one element, and its siblings go on. A malformed expression or a misused protocol is
fatal: it ends the pass. A missing answer is noted and the pass goes on.
-/

namespace PromptForm

/-- What a component finds wrong beyond the schema of its props. -/
inductive ComponentFault where
  | invalidPattern
  | invalidSchema
  | missingName
  /-- A tag that the walk itself interprets cannot be registered. -/
  | fixedTag
  | invalidDateFormat (format : String)
  | unreadableSlot (slot : String)
deriving DecidableEq, Repr

def ComponentFault.message : ComponentFault → String
  | .invalidPattern => "invalid pattern"
  | .invalidSchema => "invalid schema"
  | .missingName => "missing name"
  | .fixedTag => "intrinsic tags cannot be replaced"
  | .invalidDateFormat format => "invalid date format '" ++ format ++ "'"
  | .unreadableSlot slot => "slot '" ++ slot ++ "': data did not match any variant of untagged enum Node"

inductive PropsError where
  | unknownComponent (tag : String)
  | invalidProps (tag : String) (violations : List Violation)
  | duplicateInput (name : String)
  | component (tag : String) (fault : ComponentFault)
  | depthExceeded (tag : String) (limit : Nat)
deriving DecidableEq

def PropsError.message : PropsError → String
  | .unknownComponent tag => "unknown component '" ++ tag ++ "'"
  | .invalidProps tag violations =>
    "invalid props for '" ++ tag ++ "': " ++ "; ".intercalate (violations.map Violation.message)
  | .duplicateInput name => "duplicate input name '" ++ name ++ "'"
  | .component tag fault => "'" ++ tag ++ "': " ++ fault.message
  | .depthExceeded tag limit => "'" ++ tag ++ "': nesting deeper than " ++ toString limit ++ " elements"

/-- A step of collection taken in the wrong state. -/
inductive ProtocolError where
  | notStarted
  | alreadyStarted
  | pendingAdvance
  | done
deriving DecidableEq, Repr

def ProtocolError.message : ProtocolError → String
  | .notStarted => "input iterator has not been started"
  | .alreadyStarted => "input iterator was already started"
  | .pendingAdvance => "every discovered input is answered; call advance"
  | .done => "input iterator is done; no requirements remain"

inductive RenderError where
  | props (error : PropsError)
  | malformed (error : Malformed)
  | protocol (error : ProtocolError)
  | missingInput (name : String)
deriving DecidableEq

namespace RenderError

def message : RenderError → String
  | .props e => e.message
  | .malformed e => e.message
  | .protocol e => e.message
  | .missingInput name => "missing value for required input '" ++ name ++ "'"

/-- A fatal error ends the pass it occurs in. -/
def isFatal : RenderError → Bool
  | .malformed _ | .protocol _ => true
  | .props _ | .missingInput _ => false

end RenderError
end PromptForm
