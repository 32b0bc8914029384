import PromptForm.Environment.Config
import PromptForm.Toml.Printer
import PromptForm.Toml.Reader

/-!
# Configurations as files

The text of a configuration is a TOML file with its four sections in a fixed order; what is not set is
left out. Reading accepts any TOML file whose tables describe a configuration.
-/

namespace PromptForm.Config

/-- An entry for a setting that is set. -/
def entry {α : Type} (name : String) (plain : α → Toml.Plain) (setting : Option α) :
    List (String × Toml.Plain) :=
  (setting.map fun a => (name, plain a)).toList

def sections (c : Config) : List Toml.Section := [
  ⟨"llm", entry "model" .string c.llm.model ++ entry "provider" .string c.llm.provider ++
    entry "max_tokens" .count c.llm.maxTokens ++ entry "temperature" .float c.llm.temperature⟩,
  ⟨"output", entry "format" .string c.output.format ++ entry "trim" .bool c.output.trim ++
    entry "indent" .string c.output.indent⟩,
  ⟨"code", entry "language" .string c.code.language ++ entry "highlight" .bool c.code.highlight⟩,
  ⟨"user", entry "editor" .string c.user.editor⟩]

/-- The text of a configuration. -/
def toText (c : Config) : String := Toml.write c.sections

/-- The configuration that a text describes. -/
def ofText? (text : String) : Option Config := (Toml.read? text).bind (ofValueWith? true)

example : toText {} = "[llm]\n\n[output]\n\n[code]\n\n[user]\n\n" := by decide +kernel

end PromptForm.Config
