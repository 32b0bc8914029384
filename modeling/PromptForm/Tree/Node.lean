import PromptForm.Value.Basic
import PromptForm.Text.Blank

/-!
# Prompt trees

A prompt is a tree of nodes. Author text is a template; literal text prints as it is; a fragment is a list
of nodes without a shape of its own; an element names a component by its tag.
-/

namespace PromptForm

inductive Node where
  | empty
  | text (template : String)
  | literal (text : String)
  | fragment (nodes : List Node)
  | element (tag : String) (props : Fields) (children : List Node)
deriving Inhabited

namespace Node

/-- The tag of an element. -/
def tag? : Node → Option String
  | .element tag _ _ => some tag
  | _ => none

mutual
/-- The nodes that a node stands for once fragments are spliced in and empty nodes dropped. -/
def spliced : Node → List Node
  | .empty => []
  | .fragment nodes => flatten nodes
  | node => [node]
termination_by structural n => n
/-- The nodes of a list, with fragments spliced in and empty nodes dropped. -/
def flatten : List Node → List Node
  | [] => []
  | n :: ns => spliced n ++ flatten ns
termination_by structural ns => ns
end

mutual
/-- The node with its own text taken literally; elements keep theirs. -/
def toLiteral : Node → Node
  | .text s => .literal s
  | .fragment nodes => .fragment (toLiterals nodes)
  | node => node
termination_by structural n => n
def toLiterals : List Node → List Node
  | [] => []
  | n :: ns => toLiteral n :: toLiterals ns
termination_by structural ns => ns
end

mutual
/-- Whether a node would show: text that is not blank, or any element. -/
def shows : Node → Bool
  | .empty => false
  | .text s => !Text.allBlank s
  | .literal s => !Text.allBlank s
  | .fragment nodes => hasContent nodes
  | .element _ _ _ => true
termination_by structural n => n
def hasContent : List Node → Bool
  | [] => false
  | n :: ns => shows n || hasContent ns
termination_by structural ns => ns
end

mutual
def decideEq : (a b : Node) → Decidable (a = b)
  | .empty, b =>
    match b with
    | .empty => .isTrue rfl
    | .text _ | .literal _ | .fragment _ | .element _ _ _ => .isFalse nofun
  | .text x, b =>
    match b with
    | .text y => if h : x = y then .isTrue (by rw [h]) else .isFalse fun e => h (Node.text.inj e)
    | .empty | .literal _ | .fragment _ | .element _ _ _ => .isFalse nofun
  | .literal x, b =>
    match b with
    | .literal y => if h : x = y then .isTrue (by rw [h]) else .isFalse fun e => h (Node.literal.inj e)
    | .empty | .text _ | .fragment _ | .element _ _ _ => .isFalse nofun
  | .fragment x, b =>
    match b with
    | .fragment y =>
      match decideEqs x y with
      | .isTrue h => .isTrue (by rw [h])
      | .isFalse h => .isFalse fun e => h (Node.fragment.inj e)
    | .empty | .text _ | .literal _ | .element _ _ _ => .isFalse nofun
  | .element t ps x, b =>
    match b with
    | .element u qs y =>
      if ht : t = u then
        if hp : ps = qs then
          match decideEqs x y with
          | .isTrue h => .isTrue (by rw [ht, hp, h])
          | .isFalse h => .isFalse fun e => h (Node.element.inj e).2.2
        else .isFalse fun e => hp (Node.element.inj e).2.1
      else .isFalse fun e => ht (Node.element.inj e).1
    | .empty | .text _ | .literal _ | .fragment _ => .isFalse nofun
termination_by structural a => a
def decideEqs : (as bs : List Node) → Decidable (as = bs)
  | [], [] => .isTrue rfl
  | [], _ :: _ => .isFalse nofun
  | _ :: _, [] => .isFalse nofun
  | a :: as, b :: bs =>
    match decideEq a b, decideEqs as bs with
    | .isTrue h, .isTrue hs => .isTrue (by rw [h, hs])
    | .isFalse h, _ => .isFalse fun e => h (List.cons.inj e).1
    | _, .isFalse h => .isFalse fun e => h (List.cons.inj e).2
termination_by structural as => as
end

instance : DecidableEq Node := decideEq

end Node
end PromptForm
