import PromptForm.Tree.Node
import PromptForm.Value.Reader
import PromptForm.Schema.Violation

/-!
# The data form of trees

Null is the empty node, a string is text, a list is a fragment and an object with a tag is an element;
literal text is written like text. A list that is no list of nodes may still be an element by position:
its tag, its props and its children. The shape of a tree file is described a second time, by `isTree`,
which also looks at the form of tags and admits no elements by position.
-/

namespace PromptForm.Node

mutual
/-- The data form of a node. Empty props and children are left out. -/
def toValue : Node → Value
  | .empty => .null
  | .text s => .string s
  | .literal s => .string s
  | .fragment nodes => .list (toValues nodes)
  | .element tag props children =>
    .object ((if children.isEmpty then [] else [("children", .list (toValues children))]) ++
      (if props.isEmpty then [] else [("props", .object props)]) ++ [("tag", .string tag)])
termination_by structural n => n
def toValues : List Node → List Value
  | [] => []
  | n :: ns => toValue n :: toValues ns
termination_by structural ns => ns
end

/-- The fields that an element may have. -/
def elementKeys : List String := ["tag", "props", "children"]

/-- The tag and the props of an element, given the fields of an object. -/
def headOf? (fields : Fields) : Option (String × Fields) :=
  if !fields.all fun f => elementKeys.contains f.1 then none
  else
    match Fields.get? "tag" fields, Fields.get? "props" fields with
    | some (.string tag), none => some (tag, [])
    | some (.string tag), some (.object props) => some (tag, props)
    | _, _ => none

mutual
/-- The node that a value describes. -/
def ofValue? : Value → Option Node
  | .null => some .empty
  | .string s => some (.text s)
  | .list vs =>
    match ofValues? vs with
    | some nodes => some (.fragment nodes)
    | none => byPosition? vs
  | .object fields =>
    match headOf? fields, childrenIn? fields with
    | some (tag, props), some children => some (.element tag props children)
    | _, _ => none
  | .bool _ | .number _ => none
termination_by structural v => v

def ofValues? : List Value → Option (List Node)
  | [] => some []
  | v :: vs =>
    match ofValue? v, ofValues? vs with
    | some n, some ns => some (n :: ns)
    | _, _ => none
termination_by structural vs => vs

/-- An element by position: a tag, props and perhaps children. -/
def byPosition? : List Value → Option Node
  | [.string tag, .object props] => some (.element tag props [])
  | [.string tag, .object props, .list vs] => (ofValues? vs).map (.element tag props)
  | _ => none
termination_by structural vs => vs

/-- The children among the fields of an object: those of the first field of that name. -/
def childrenIn? : List (String × Value) → Option (List Node)
  | [] => some []
  | (k, v) :: fs =>
    if k = "children" then
      match v with
      | .list vs => ofValues? vs
      | _ => none
    else childrenIn? fs
termination_by structural fs => fs
end

/-- A part of a tag: a letter, then letters and digits. -/
def isTagPart : List Char → Bool
  | c :: cs => c.isAlpha && cs.all Char.isAlphanum
  | [] => false

/-- The form of tags in tree files: parts with dots between them. -/
def isTagForm (tag : String) : Bool := (Text.splitBy (· == '.') tag.toList).all isTagPart

/-- The fields of an element in a tree file, its children apart. -/
def isElementHead (fields : Fields) : Bool :=
  fields.all (fun f => elementKeys.contains f.1) &&
  (match Fields.get? "tag" fields with
    | some (.string tag) => isTagForm tag
    | _ => false) &&
  (match Fields.get? "props" fields with
    | some (.object _) | none => true
    | _ => false)

mutual
/-- The shape of a tree file. -/
def isTree : Value → Bool
  | .null => true
  | .string _ => true
  | .list vs => areTrees vs
  | .object fields => isElementHead fields && childrenAreTrees fields
  | .bool _ | .number _ => false
termination_by structural v => v
def areTrees : List Value → Bool
  | [] => true
  | v :: vs => isTree v && areTrees vs
termination_by structural vs => vs
/-- Every field called children is a list of trees. -/
def childrenAreTrees : List (String × Value) → Bool
  | [] => true
  | (k, v) :: fs =>
    (if k = "children" then
      match v with
      | .list vs => areTrees vs
      | _ => false
    else true) && childrenAreTrees fs
termination_by structural fs => fs
end

/-- Why a text is no tree file. -/
inductive FileFault where
  | notData
  | wrongShape (v : Value)
  | unreadable
deriving DecidableEq

def FileFault.message : FileFault → String
  | .notData => "parse tree json"
  | .wrongShape v => "tree schema validation failed: " ++ (Violation.noAlternative v).message
  | .unreadable => "deserialize tree"

/-- The tree that the text of a file writes. -/
def ofText (s : String) : Except FileFault Node :=
  match Value.ofText? s with
  | none => .error .notData
  | some v =>
    if isTree v then
      match ofValue? v with
      | some node => .ok node
      | none => .error .unreadable
    else .error (.wrongShape v)

end PromptForm.Node
