import PromptForm.Environment.Provider
import PromptForm.Value.Basic

/-!
# Configuration

The optional settings of an environment, in four sections. A configuration is read from a value: objects
by field name, lists by field position; a missing field is unset and unknown fields do not matter.
-/

namespace PromptForm

structure LlmSettings where
  model : Option String := none
  /-- Decides the provider when it names one. -/
  provider : Option String := none
  maxTokens : Option Nat := none
  temperature : Option Float := none
deriving DecidableEq

structure OutputSettings where
  format : Option String := none
  trim : Option Bool := none
  indent : Option String := none
deriving DecidableEq

structure CodeSettings where
  language : Option String := none
  highlight : Option Bool := none
deriving DecidableEq

structure UserSettings where
  editor : Option String := none
deriving DecidableEq

structure Config where
  llm : LlmSettings := {}
  output : OutputSettings := {}
  code : CodeSettings := {}
  user : UserSettings := {}
deriving DecidableEq

namespace Config

/-- What a field holds: the outer option is absent when the value does not fit, the inner when the field
    is missing or null. -/
def optional? {α : Type} (read : Value → Option α) : Option Value → Option (Option α)
  | none => some none
  | some .null => some none
  | some v => (read v).map some

/-- A count of tokens has 32 bits. -/
def tokens? (v : Value) : Option Nat := v.toCount?.filter (· < Number.twoTo 32)

/-- A temperature is any float or an integer that a number can hold. -/
def degrees? (v : Value) : Option Float :=
  v.toNumber?.bind fun
    | .int n => if Number.inRange n then some (Float.ofInt n) else none
    | .float x => some x

/-- The fields of a section, each found under the one of its names that is there or at its place in a
    list. A field given under two names is refused, and so is a list with more entries than fields unless
    a surplus does not matter. -/
def fields? (surplus : Bool) (names : List (List String)) : Value → Option (List (Option Value))
  | .object fields =>
    names.mapM fun aliases =>
      match aliases.filterMap (Fields.get? · fields) with
      | [] => some none
      | [v] => some (some v)
      | _ => none
  | .list items =>
    if names.length < items.length && !surplus then none
    else some ((items.take names.length).map some ++ List.replicate (names.length - items.length) none)
  | _ => none

def llmOf? (surplus : Bool) (v : Value) : Option LlmSettings := do
  match ← fields? surplus [["model"], ["provider"], ["max_tokens", "maxTokens"], ["temperature"]] v with
  | [model, provider, maxTokens, temperature] =>
    return { model := ← optional? Value.toString? model
             provider := ← optional? Value.toString? provider
             maxTokens := ← optional? tokens? maxTokens
             temperature := ← optional? degrees? temperature }
  | _ => none

def outputOf? (surplus : Bool) (v : Value) : Option OutputSettings := do
  match ← fields? surplus [["format"], ["trim"], ["indent"]] v with
  | [format, trim, indent] =>
    return { format := ← optional? Value.toString? format
             trim := ← optional? Value.toBool? trim
             indent := ← optional? Value.toString? indent }
  | _ => none

def codeOf? (surplus : Bool) (v : Value) : Option CodeSettings := do
  match ← fields? surplus [["language"], ["highlight"]] v with
  | [language, highlight] =>
    return { language := ← optional? Value.toString? language
             highlight := ← optional? Value.toBool? highlight }
  | _ => none

def userOf? (surplus : Bool) (v : Value) : Option UserSettings := do
  match ← fields? surplus [["editor"]] v with
  | [editor] => return { editor := ← optional? Value.toString? editor }
  | _ => none

/-- A missing section is empty; null is no section. -/
def section? {α : Type} (empty : α) (read : Value → Option α) : Option Value → Option α
  | none => some empty
  | some v => read v

/-- The configuration that a value describes. -/
def ofValueWith? (surplus : Bool) (v : Value) : Option Config := do
  match ← fields? surplus [["llm"], ["output"], ["code"], ["user"]] v with
  | [llm, output, code, user] =>
    return { llm := ← section? {} (llmOf? surplus) llm
             output := ← section? {} (outputOf? surplus) output
             code := ← section? {} (codeOf? surplus) code
             user := ← section? {} (userOf? surplus) user }
  | _ => none

/-- The configuration that a value describes, lists no longer than their sections. -/
def ofValue? (v : Value) : Option Config := ofValueWith? false v

/-- What is wrong with a configuration that reads. -/
inductive Fault where
  | unknownProvider (name : String)
  | temperatureRange
  | noTokens
  | indentNotBlank
deriving DecidableEq, Repr

def Fault.message : Fault → String
  | .unknownProvider name => "llm.provider: " ++ Provider.unknownMessage name
  | .temperatureRange => "llm.temperature must be within 0..=2"
  | .noTokens => "llm.max_tokens must be > 0"
  | .indentNotBlank => "output.indent must contain only whitespace"

/-- The first fault: a provider nobody knows, a temperature outside 0 to 2, no tokens at all, or an
    indent that shows. -/
def fault? (c : Config) : Option Fault :=
  let provider := c.llm.provider.bind fun p =>
    if (Provider.ofName? p).isNone then some (Fault.unknownProvider p) else none
  let temperature := c.llm.temperature.bind fun t =>
    if 0 ≤ t ∧ t ≤ 2 then none else some Fault.temperatureRange
  let tokens := if c.llm.maxTokens = some 0 then some Fault.noTokens else none
  let indent := c.output.indent.bind fun s => if Text.allBlank s then none else some Fault.indentNotBlank
  provider.or (temperature.or (tokens.or indent))

end Config
end PromptForm
