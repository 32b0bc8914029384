import PromptForm.Component.Ask
import PromptForm.Component.Prompt

/-!
# Rendering components

The node that each component stands for, and the action that it calls for.
-/

namespace PromptForm.Component

/-- A section around the children, nothing if they would not show. -/
def sectionIfContent (name : String) (children : List Node) : Node :=
  if Node.hasContent children then sectionOf name (.fragment children) else .empty

def renderRole (props : Fields) (children : List Node) : Node :=
  if Node.hasContent children then sectionOf "role" (.fragment children)
  else
    let text :=
      match Fields.text? "expertise" props with
      | some field => "You are a helpful assistant with expertise in " ++ field ++ "."
      | none => "You are a helpful assistant."
    sectionOf "role" (.literal text)

def renderFormat (props : Fields) (children : List Node) (ctx : Context) : Node :=
  let format := (Fields.text? "type" props).getD ctx.format
  let intro := [.literal ("Respond in " ++ format ++ " format.\n")]
  let strict :=
    if Fields.flag "strict" props then
      [.text "Return only the formatted output, with no extra commentary.\n"]
    else []
  let schema :=
    match Fields.get? "schema" props with
    | some schema =>
      [.literal ("The response must match this JSON schema:\n```json\n" ++ schema.pretty ++ "\n```\n")]
    | none => []
  sectionOf "format" (.fragment (intro ++ strict ++ schema ++ children))

/-- How the strength of a constraint is written before it. -/
def strength (props : Fields) : String :=
  match Fields.text? "type" props with
  | some "must" => "MUST: "
  | some "should" => "SHOULD: "
  | some "may" => "MAY: "
  | some "must-not" => "MUST NOT: "
  | some "should-not" => "SHOULD NOT: "
  | _ => ""

def renderConstraint (props : Fields) (children : List Node) : Node :=
  .element Intrinsic.item.tag [] (.text (strength props) :: children)

def renderListItem (props : Fields) (children : List Node) : Node :=
  let marker :=
    match Fields.count? "number" props with
    | some n => [("marker", .string (toString n ++ "."))]
    | none => []
  .element Intrinsic.item.tag marker children

/-- The steps of a list with their numbers, counted from the number after `count`. A number that is
    already given stays. -/
def numbered (count : Nat) : List Node → List Node
  | [] => []
  | .element tag props children :: rest =>
    -- A step that has a number is counted as well.
    if tag = "Step" then
      let props :=
        if Fields.has "number" props then props
        else Fields.insert "number" (Value.int (count + 1)) props
      .element tag props children :: numbered (count + 1) rest
    else .element tag props children :: numbered count rest
  | node :: rest => node :: numbered count rest

def renderSteps (children : List Node) : Node :=
  sectionIfContent "steps" (numbered 0 (Node.flatten children))

def renderExample (props : Fields) (children : List Node) : Node :=
  let given :=
    match Fields.text? "input" props with
    | some text => [.literal ("Input: " ++ text ++ "\n")]
    | none => []
  let wanted :=
    match Fields.text? "output" props with
    | some text => [.literal ("\nOutput: " ++ text)]
    | none => []
  let title := (Fields.text? "label" props).getD "Example"
  .element Intrinsic.section.tag [("name", .string "example"), ("title", .string title)]
    (given ++ children ++ wanted)

def renderSimpleSection (name : String) (props : Fields) (children : List Node) : Node :=
  if Node.hasContent children then
    let title :=
      match Fields.get? "title" props with
      | some title => [("title", title)]
      | none => []
    .element Intrinsic.section.tag (("name", .string name) :: title) children
  else .empty

def defaultDateFormat : String := "%Y-%m-%d %H:%M:%S UTC"

def renderDateTime (input : RenderInput) (ctx : Context) : Except PropsError Node :=
  let format := (Fields.text? "format" input.props).getD defaultDateFormat
  match ctx.host.now.format? format with
  | some text => .ok (.literal text)
  | none => .error (.component input.tag (.invalidDateFormat format))

def renderTimestamp (props : Fields) (ctx : Context) : Node :=
  let n := if Fields.text? "unit" props = some "millis" then ctx.host.now.millis else ctx.host.now.seconds
  .literal (toString n)

def renderCode (props : Fields) (children : List Node) (ctx : Context) : Node :=
  -- Without highlighting no language is named, not even one that the props give.
  let language := if ctx.highlight then ((Fields.text? "language" props).or ctx.language).getD "" else ""
  .fragment (.literal ("\n```" ++ language ++ "\n") :: Node.toLiterals children ++ [.literal "\n```\n"])

def renderJson (props : Fields) : Node :=
  let data := (Fields.get? "data" props).getD .null
  let pretty := ((Fields.get? "pretty" props).bind Value.toBool?).getD true
  .literal (if pretty then data.pretty else data.text)

/-- The node that a component stands for. -/
def render (c : Component) (input : RenderInput) (ctx : Context) : Except PropsError Node :=
  match c with
  | .prompt => renderPrompt input
  | .role => .ok (renderRole input.props input.children)
  | .format => .ok (renderFormat input.props input.children ctx)
  | .constraints => .ok (sectionIfContent "constraints" input.children)
  | .constraint => .ok (renderConstraint input.props input.children)
  | .steps => .ok (renderSteps input.children)
  | .listItem => .ok (renderListItem input.props input.children)
  | .examples => .ok (sectionIfContent "examples" input.children)
  | .example_ => .ok (renderExample input.props input.children)
  | .simpleSection name => .ok (renderSimpleSection name input.props input.children)
  | .ask _ => .ok ((input.resolved.map fun v => .literal v.display).getD .empty)
  | .hostFact fact => .ok (.literal (fact.read ctx.host))
  | .dateTime => renderDateTime input ctx
  | .timestamp => .ok (renderTimestamp input.props ctx)
  | .code => .ok (renderCode input.props input.children ctx)
  | .json => .ok (renderJson input.props)
  | .postExecution => .ok (.fragment input.children)
  | .reviewFile | .openUrl | .runCommand => .ok .empty
  | .fixed _ node => .ok node

/-- The texts among the fields of an object. -/
def textFields (fields : Fields) : List (String × String) :=
  fields.filterMap fun (k, v) => v.toString?.map (k, ·)

/-- The action that a component calls for. -/
def action? (c : Component) (props : Fields) (ctx : Context) : Option Action :=
  match c with
  | .reviewFile =>
    (Fields.text? "file" props).map fun file =>
      .reviewFile file ((Fields.text? "editor" props).or ctx.editor)
  | .openUrl => (Fields.text? "url" props).map fun url => .openUrl url (Fields.text? "browser" props)
  | .runCommand =>
    let env := (((Fields.get? "env" props).bind Value.toFields?).map textFields).getD []
    (Fields.text? "command" props).map fun command => .runCommand command (Fields.text? "cwd" props) env
  | _ => none

end PromptForm.Component
