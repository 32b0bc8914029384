import PromptForm.Text.Blank

/-!
# Providers and delimiters

Which vendor a prompt is written for, how a vendor is named or inferred from a model's name, and the
section delimiters its models follow best.
-/

namespace PromptForm

/-- How a section is set off from its surroundings. -/
inductive Delimiter where
  | xml
  | markdown
  | none
deriving DecidableEq, Repr

namespace Delimiter

def name : Delimiter → String
  | .xml => "xml"
  | .markdown => "markdown"
  | .none => "none"

def ofName? (s : String) : Option Delimiter :=
  if s = "xml" then some .xml
  else if s = "markdown" then some .markdown
  else if s = "none" then some .none
  else Option.none

/-- What a name that is no delimiter is answered with. -/
def unknownMessage (s : String) : String := "unknown delimiter style '" ++ s ++ "'"

end Delimiter

inductive Provider where
  | anthropic | openAi | google | metaAI | mistral | deepSeek | xai | cohere | unspecified
deriving DecidableEq, Repr

namespace Provider

def name : Provider → String
  | .anthropic => "anthropic"
  | .openAi => "openai"
  | .google => "google"
  | .metaAI => "meta"
  | .mistral => "mistral"
  | .deepSeek => "deepseek"
  | .xai => "xai"
  | .cohere => "cohere"
  | .unspecified => "unspecified"

def delimiter : Provider → Delimiter
  | .anthropic => .xml
  | .unspecified => .none
  | _ => .markdown

/-- The names a provider goes by, in small letters. -/
def knownNames : List (String × Provider) := [
  ("anthropic", .anthropic), ("claude", .anthropic), ("openai", .openAi), ("google", .google),
  ("gemini", .google), ("meta", .metaAI), ("mistral", .mistral), ("deepseek", .deepSeek), ("xai", .xai),
  ("grok", .xai), ("cohere", .cohere), ("unspecified", .unspecified), ("", .unspecified)]

/-- A name as it is compared: without blanks around it, ASCII letters small. -/
def normalName (s : String) : String := Text.asciiLower (Text.trimmed s)

def ofName? (s : String) : Option Provider :=
  (knownNames.find? (·.1 == normalName s)).map (·.2)

/-- What a name that is no provider is answered with. -/
def unknownMessage (s : String) : String := "unknown provider '" ++ normalName s ++ "'"

/-- How the names of models begin. -/
def modelPrefixes : List (String × Provider) := [
  ("claude", .anthropic), ("gpt", .openAi), ("chatgpt", .openAi), ("o1", .openAi), ("o3", .openAi),
  ("o4", .openAi), ("text-davinci", .openAi), ("gemini", .google), ("gemma", .google),
  ("palm", .google), ("llama", .metaAI), ("codellama", .metaAI), ("mistral", .mistral),
  ("mixtral", .mistral), ("codestral", .mistral), ("ministral", .mistral), ("pixtral", .mistral),
  ("deepseek", .deepSeek), ("grok", .xai), ("command", .cohere)]

/-- What the names of models contain, in order of precedence. -/
def modelKeywords : List (String × Provider) := [
  ("claude", .anthropic), ("gpt", .openAi), ("gemini", .google), ("llama", .metaAI),
  ("mistral", .mistral), ("mixtral", .mistral), ("deepseek", .deepSeek), ("grok", .xai)]

/-- The longer of two entries; of equally long ones the later. -/
def longer (best : Option (String × Provider)) (entry : String × Provider) : Option (String × Provider) :=
  match best with
  | Option.none => some entry
  | some b => if entry.1.length < b.1.length then some b else some entry

/-- The provider of the longest table entry that begins a name. -/
def byPrefix? (table : List (String × Provider)) (name : List Char) : Option Provider :=
  ((table.filter fun (p, _) => (Text.afterPrefix? p.toList name).isSome).foldl longer Option.none).map (·.2)

/-- The provider of the first keyword that occurs in a name. -/
def byKeyword? (name : List Char) : Option Provider :=
  (modelKeywords.find? fun (k, _) => Text.contains name k.toList).map (·.2)

/-- The provider of a model path: a vendor named by a segment before the last decides, from the left;
    else the last segment is matched by how it begins and then by what it contains. -/
def ofSegments? : List (List Char) → Option Provider
  | [] => none
  | [last] =>
    let name := Text.trim last
    (byPrefix? modelPrefixes name).or (byKeyword? name)
  | vendor :: rest =>
    match ofName? (String.ofList vendor) with
    | some .unspecified | Option.none => ofSegments? rest
    | some p => some p

/-- The provider that a model's name suggests. -/
def infer? (model : String) : Option Provider :=
  ofSegments? (Text.splitBy (· == '/') (model.toList.map Char.toLower))

end Provider
end PromptForm
