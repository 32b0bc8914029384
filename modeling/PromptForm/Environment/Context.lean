import PromptForm.Environment.Config
import PromptForm.Calendar.Instant

/-!
# Render contexts

What every pass over a prompt may read besides the answers: the provider and its delimiter, the settings
with their defaults, and facts about the host.
-/

namespace PromptForm

structure HostFacts where
  hostname : String
  username : String
  cwd : String
  now : Calendar.Instant
deriving DecidableEq

structure Context where
  provider : Provider
  delimiter : Delimiter
  trim : Bool
  indent : String
  format : String
  language : Option String
  highlight : Bool
  model : Option String
  maxTokens : Option Nat
  temperature : Option Float
  editor : Option String
  host : HostFacts
deriving DecidableEq

namespace Context

/-- The provider that the settings name, else the one that the model suggests. -/
def providerOf (llm : LlmSettings) : Provider :=
  ((llm.provider.bind Provider.ofName?).or (llm.model.bind Provider.infer?)).getD .unspecified

/-- The context of a configuration on a host. -/
def ofConfig (c : Config) (host : HostFacts) : Context :=
  let provider := providerOf c.llm
  { provider
    delimiter := provider.delimiter
    trim := c.output.trim.getD true
    indent := c.output.indent.getD "  "
    format := c.output.format.getD "markdown"
    language := c.code.language
    highlight := c.code.highlight.getD true
    model := c.llm.model
    maxTokens := c.llm.maxTokens
    temperature := c.llm.temperature
    editor := c.user.editor
    host }

/-- The context with another choice of trimming, if there is one. -/
def withTrim (ctx : Context) : Option Bool → Context
  | some trim => { ctx with trim }
  | none => ctx

def textOrNull (s : Option String) : Value := (s.map Value.string).getD .null

/-- The environment as templates see it. -/
def templateValue (ctx : Context) : Value :=
  .object [
    ("cwd", .string ctx.host.cwd),
    ("delimiter", .string ctx.delimiter.name),
    ("editor", textOrNull ctx.editor),
    ("format", .string ctx.format),
    ("hostname", .string ctx.host.hostname),
    ("language", textOrNull ctx.language),
    ("maxTokens", (ctx.maxTokens.map fun n => Value.int n).getD .null),
    ("model", textOrNull ctx.model),
    ("now", .string ctx.host.now.text),
    ("provider", .string ctx.provider.name),
    ("temperature", (ctx.temperature.map Value.float).getD .null),
    ("username", .string ctx.host.username)]

end Context
end PromptForm
