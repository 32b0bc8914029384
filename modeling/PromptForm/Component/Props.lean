import PromptForm.Component.Basic

/-!
# The props of components

The schema of every component and of every intrinsic tag. The fields of an object are listed in key order,
which is the order of the messages about them.
-/

namespace PromptForm

namespace Pattern

/-- A set of the given ranges. -/
def rangesOf (ranges : List (Char × Char)) : CharSet :=
  ranges.foldl (fun s (low, high) => .union s (.range low high)) .nothing

/-- The whole text is a first character and any number of later ones. -/
def wholeWord (first later : List (Char × Char)) : Pattern :=
  .seq (.anchor .textStart) (.seq (.one (rangesOf first))
    (.seq (.repeated (.one (rangesOf later)) 0 none) (.anchor .textEnd)))

def identifierSource : String := "^[A-Za-z_][A-Za-z0-9_]*$"

/-- A letter or underscore, then letters, digits and underscores. -/
def identifier : Pattern :=
  wholeWord [('A', 'Z'), ('a', 'z'), ('_', '_')] [('A', 'Z'), ('a', 'z'), ('0', '9'), ('_', '_')]

def sectionNameSource : String := "^[A-Za-z_][A-Za-z0-9_.-]*$"

/-- An identifier that may go on with dots and dashes. -/
def sectionName : Pattern :=
  wholeWord [('A', 'Z'), ('a', 'z'), ('_', '_')]
    [('A', 'Z'), ('a', 'z'), ('0', '9'), ('_', '_'), ('.', '.'), ('-', '-')]

def urlSource : String := "^[A-Za-z][A-Za-z0-9+.-]*://"

/-- A scheme, a colon and two slashes at the start of the text. -/
def url : Pattern :=
  .seq (.anchor .textStart) (.seq (.one (rangesOf [('A', 'Z'), ('a', 'z')]))
    (.seq (.repeated (.one (rangesOf [('A', 'Z'), ('a', 'z'), ('0', '9'), ('+', '+'), ('.', '.'), ('-', '-')]))
        0 none)
      (.seq (.one (.single ':')) (.seq (.one (.single '/')) (.one (.single '/'))))))

example : ofText? identifierSource = some identifier := by decide +kernel
example : ofText? sectionNameSource = some sectionName := by decide +kernel
example : ofText? urlSource = some url := by decide +kernel

end Pattern

namespace Schema

/-- A text in which a pattern occurs. -/
def matching (source : String) (p : Pattern) : Schema := .all [.pattern source p, string]

def identifier : Schema := matching Pattern.identifierSource Pattern.identifier

def noProps : Schema := closedObject [] []

/-- A text that is not empty. -/
def someText : Schema := .all [.minLength 1, string]

def choice (names : List String) : Schema := .oneValue (names.map .string)

end Schema

open Schema (string boolean identifier noProps someText choice closedObject integerFrom matching)

namespace Intrinsic

def schema : Intrinsic → Schema
  | .branch => closedObject [("when", .ofType [.boolean, .string])] ["when"]
  | .loop =>
    closedObject [("as", identifier), ("index", identifier), ("items", .ofType [.array, .string])] ["items"]
  | .section =>
    closedObject [("delimiter", choice ["xml", "markdown", "none"]),
      ("name", matching Pattern.sectionNameSource Pattern.sectionName), ("title", string)] ["name"]
  | .item => closedObject [("marker", string)] []
  | .fragment => noProps

end Intrinsic

namespace Component

/-- An option is a text, or an object with a value and perhaps a label. -/
def optionSchema : Schema :=
  .exactlyOne [string, closedObject [("label", string), ("value", string)] ["value"]]

def optionsSchema : Schema := .all [.items optionSchema, .minItems 1, .ofType [.array]]

/-- The props of an input beyond those of all inputs. -/
def askExtras : InputKind → List (String × Schema)
  | .text | .editor | .secret =>
    [("maxLength", integerFrom 0), ("minLength", integerFrom 0), ("pattern", string), ("placeholder", string)]
  | .number => [("max", .ofType [.number]), ("min", .ofType [.number])]
  | .select => [("options", optionsSchema)]
  | .multiSelect => [("max", integerFrom 1), ("min", integerFrom 0), ("options", optionsSchema)]
  | .rating => [("max", integerFrom 1)]
  | .file | .path => [("mustExist", boolean)]
  | .confirm | .date => []

def askSchema (kind : InputKind) : Schema :=
  closedObject
    (Fields.insertAll (askExtras kind)
      [("default", .anything), ("description", string), ("label", string), ("name", identifier),
       ("required", boolean)])
    ["name"]

def slotSchema : Schema := .ofType [.array, .null, .object, .string]

def schema : Component → Schema
  | .prompt =>
    closedObject
      [("bare", boolean), ("description", string), ("name", string), ("noConstraints", boolean),
       ("noFormat", boolean), ("noRole", boolean),
       ("slots", closedObject [("constraints", slotSchema), ("format", slotSchema), ("role", slotSchema)] []),
       ("tags", .all [.items string, .ofType [.array]]), ("version", string)] []
  | .role => closedObject [("expertise", string)] []
  | .format => closedObject [("schema", .ofType [.object]), ("strict", boolean), ("type", string)] []
  | .constraints | .steps | .examples | .postExecution | .hostFact _ => noProps
  | .constraint => closedObject [("type", choice ["must", "should", "may", "must-not", "should-not"])] []
  | .listItem => closedObject [("number", integerFrom 1)] []
  | .example_ => closedObject [("input", string), ("label", string), ("output", string)] []
  | .simpleSection _ => closedObject [("title", string)] []
  | .ask kind => askSchema kind
  | .dateTime => closedObject [("format", someText)] []
  | .timestamp => closedObject [("unit", choice ["seconds", "millis"])] []
  | .code => closedObject [("language", string)] []
  | .json => closedObject [("data", .anything), ("pretty", boolean)] ["data"]
  | .reviewFile => closedObject [("editor", string), ("file", someText)] ["file"]
  | .openUrl => closedObject [("browser", string), ("url", matching Pattern.urlSource Pattern.url)] ["url"]
  | .runCommand =>
    closedObject [("command", someText), ("cwd", string),
      ("env", .all [.fieldsElse [] string, .ofType [.object]])] ["command"]
  | .fixed schema _ => schema

end Component
end PromptForm
