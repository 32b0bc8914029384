import PromptForm.Proofs.Pattern.Words

/-! # Trees as data

A tree without literal text is read back from its data form. Tree files are described twice, by their reader and by
their shape (`Node.isTree`). The shape is the stricter one: it asks for tags of a form, which is that of a pattern
(`Node.isTagForm_eq_matches`), and whatever has it can be read. -/

namespace PromptForm
namespace Node

/-! ### Tags -/

def tagSource : String := "^[A-Za-z][A-Za-z0-9]*(\\.[A-Za-z][A-Za-z0-9]*)*$"

/-- Whether the pattern of tags matches. -/
def matchesTag (tag : String) : Bool := (Pattern.ofText? tagSource).any fun p => p.matchesIn tag.toList

namespace Tag
open Pattern

def letters : CharSet := rangesOf [('A', 'Z'), ('a', 'z')]

def alphanumerics : CharSet := rangesOf [('A', 'Z'), ('a', 'z'), ('0', '9')]

/-- A letter, then letters and digits. -/
def part : Pattern := .seq (.one letters) (.repeated (.one alphanumerics) 0 none)

theorem ofText?_tagSource : Pattern.ofText? tagSource = some (.seq (.anchor .textStart) (.seq (.one letters)
    (.seq (.repeated (.one alphanumerics) 0 none)
      (.seq (.repeated (.seq (.one (.single '.')) part) 0 none) (.anchor .textEnd))))) := by
  decide +kernel

theorem letters_has (c : Char) : letters.has c = c.isAlpha := by
  rw [Bool.eq_iff_iff, Text.isAlpha_iff]
  simp [letters, has_rangesOf]

theorem alphanumerics_has (c : Char) : alphanumerics.has c = c.isAlphanum := by
  rw [Bool.eq_iff_iff]
  simp [alphanumerics, has_rangesOf, Char.isAlphanum, Text.isAlpha_iff, Char.isDigit, UInt32.le_iff_toNat_le, or_assoc]

theorem takesWords_part : TakesWords part fun w => isTagPart w = true := by
  refine (takesWords_word letters alphanumerics).congr fun w => ?_
  constructor
  · rintro ⟨c, cs, rfl, hc, hcs⟩
    simp only [letters_has, alphanumerics_has] at hc hcs
    simpa [isTagPart, hc] using hcs
  · intro h
    cases w with
    | nil => cases h
    | cons c cs =>
      simp only [isTagPart, Bool.and_eq_true, List.all_eq_true] at h
      exact ⟨c, cs, rfl, by rw [letters_has, h.1], fun x hx => by rw [alphanumerics_has, h.2 x hx]⟩

/-- Parts with dots between them. -/
def joined (first : List Char) (others : List (List Char)) : List Char :=
  first ++ (others.map ('.' :: ·)).flatten

theorem matchesTag_iff (tag : String) : matchesTag tag = true ↔
    ∃ first others, tag.toList = joined first others ∧ isTagPart first = true ∧
      ∀ part ∈ others, isTagPart part = true := by
  have hdot : TakesWords (.seq (.one (.single '.')) part) fun w => ∃ p, w = '.' :: p ∧ isTagPart p = true := by
    refine ((TakesWords.one _).seq takesWords_part).congr fun w => ?_
    constructor
    · rintro ⟨_, p, rfl, ⟨c, rfl, hc⟩, hp⟩
      exact ⟨p, by rw [has_single.mp hc]; rfl, hp⟩
    · rintro ⟨p, rfl, hp⟩
      exact ⟨['.'], p, rfl, ⟨'.', rfl, has_single.mpr rfl⟩, hp⟩
  -- The pattern is one part and then words of a dot and a part, up to the end.
  rw [matchesTag, ofText?_tagSource, Option.any_some, matchesIn_start]
  simp only [takes_seq_assoc]
  refine (takes_end (takesWords_part.seq hdot.repeated)).trans ?_
  constructor
  · rintro ⟨first, _, htag, hfirst, ws, rfl, hws⟩
    refine ⟨first, ws.map List.tail, ?_, hfirst, fun p hp => ?_⟩
    · have hmap : (ws.map List.tail).map ('.' :: ·) = ws := by
        rw [List.map_map]
        refine (List.map_congr_left fun w hw => ?_).trans (List.map_id ws)
        obtain ⟨p, rfl, -⟩ := hws w hw
        rfl
      rw [joined, hmap, htag]
    · obtain ⟨w, hw, rfl⟩ := List.mem_map.mp hp
      obtain ⟨p, rfl, hpart⟩ := hws w hw
      exact hpart
  · rintro ⟨first, others, htag, hfirst, hothers⟩
    refine ⟨first, _, htag, hfirst, others.map ('.' :: ·), rfl, fun w hw => ?_⟩
    obtain ⟨p, hp, rfl⟩ := List.mem_map.mp hw
    exact ⟨p, rfl, hothers p hp⟩

/-! ### Parts between dots -/

theorem splitBy_eq (cs : List Char) : ∃ first others, Text.splitBy (· == '.') cs = first :: others ∧
    cs = joined first others := by
  induction cs with
  | nil => exact ⟨[], [], rfl, rfl⟩
  | cons c cs ih =>
    obtain ⟨first, others, hsplit, rfl⟩ := ih
    by_cases hc : c = '.'
    · subst hc
      exact ⟨[], first :: others, by simp [Text.splitBy, hsplit], by simp [joined]⟩
    · exact ⟨c :: first, others, by simp [Text.splitBy, hsplit, hc], by simp [joined]⟩

theorem splitBy_joined (first : List Char) (others : List (List Char)) (hfirst : '.' ∉ first)
    (hothers : ∀ part ∈ others, '.' ∉ part) : Text.splitBy (· == '.') (joined first others) = first :: others := by
  induction first with
  | nil =>
    cases others with
    | nil => rfl
    | cons part others =>
      obtain ⟨hpart, hothers⟩ := List.forall_mem_cons.mp hothers
      have ih := splitBy_joined part others hpart hothers
      simpa [joined, Text.splitBy] using ih
  | cons c first ih =>
    obtain ⟨hc, hfirst⟩ := not_or.mp (fun h => hfirst (List.mem_cons.mpr h))
    have hne : c ≠ '.' := fun h => hc h.symm
    have hsplit : Text.splitBy (· == '.') (first ++ (others.map ('.' :: ·)).flatten) = first :: others := ih hfirst
    simp [joined, Text.splitBy, hne, hsplit]

theorem not_mem_of_isTagPart {cs : List Char} (h : isTagPart cs = true) : '.' ∉ cs := by
  cases cs with
  | nil => exact List.not_mem_nil
  | cons c cs =>
    simp only [isTagPart, Bool.and_eq_true, List.all_eq_true] at h
    intro hdot
    rcases List.mem_cons.mp hdot with rfl | hdot
    · exact absurd h.1 (by decide)
    · exact absurd (h.2 '.' hdot) (by decide)

end Tag

/-- The form of tags is that of their pattern. -/
theorem isTagForm_eq_matches (tag : String) : isTagForm tag = matchesTag tag := by
  rw [Bool.eq_iff_iff, Tag.matchesTag_iff, isTagForm]
  constructor
  · intro h
    obtain ⟨first, others, hsplit, htag⟩ := Tag.splitBy_eq tag.toList
    rw [hsplit, List.all_cons, Bool.and_eq_true, List.all_eq_true] at h
    exact ⟨first, others, htag, h.1, h.2⟩
  · rintro ⟨first, others, htag, hfirst, hothers⟩
    rw [htag, Tag.splitBy_joined first others (Tag.not_mem_of_isTagPart hfirst)
      fun part hpart => Tag.not_mem_of_isTagPart (hothers part hpart)]
    simpa [hfirst] using hothers

/-! ### Reading back -/

mutual
/-- Nowhere in the node stands literal text, which is written like text. -/
def NoLiteral : Node → Prop
  | .empty | .text _ => True
  | .literal _ => False
  | .fragment nodes | .element _ _ nodes => NoLiterals nodes
termination_by structural n => n
def NoLiterals : List Node → Prop
  | [] => True
  | n :: ns => NoLiteral n ∧ NoLiterals ns
termination_by structural ns => ns
end

mutual
/-- The tags of the elements in a node. -/
def tags : Node → List String
  | .empty | .text _ | .literal _ => []
  | .fragment nodes => tagsIn nodes
  | .element tag _ children => tag :: tagsIn children
termination_by structural n => n
def tagsIn : List Node → List String
  | [] => []
  | n :: ns => tags n ++ tagsIn ns
termination_by structural ns => ns
end

variable {tag : String} {props : Fields} {children : List Node}

/-- The fields of an element, those left out that are empty. -/
def elementFields (tag : String) (props : Fields) (children : List Node) : Fields :=
  (if children.isEmpty then [] else [("children", .list (toValues children))]) ++
    (if props.isEmpty then [] else [("props", .object props)]) ++ [("tag", .string tag)]

theorem headOf?_elementFields : headOf? (elementFields tag props children) = some (tag, props) := by
  cases props <;> cases children <;> simp [elementFields, headOf?, elementKeys, Fields.get?]

theorem childrenIn?_elementFields :
    childrenIn? (elementFields tag props children) = ofValues? (toValues children) := by
  cases props <;> cases children <;> simp [elementFields, childrenIn?, toValues, ofValues?]

mutual
theorem ofValue?_toValue : ∀ n : Node, n.NoLiteral → ofValue? n.toValue = some n
  | .empty, _ => rfl
  | .text _, _ => rfl
  | .fragment nodes, h => by
    show (match ofValues? (toValues nodes) with | some nodes => some (Node.fragment nodes) | none => _) = _
    rw [ofValues?_toValues nodes h]
  | .element tag props children, h => by
    show (match headOf? (elementFields tag props children), childrenIn? (elementFields tag props children) with
      | some (tag, props), some children => some (Node.element tag props children)
      | _, _ => none) = _
    rw [headOf?_elementFields, childrenIn?_elementFields, ofValues?_toValues children h]
termination_by structural n => n
theorem ofValues?_toValues : ∀ ns : List Node, NoLiterals ns → ofValues? (toValues ns) = some ns
  | [], _ => rfl
  | n :: ns, ⟨hn, hns⟩ => by
    simp only [toValues, ofValues?, ofValue?_toValue n hn, ofValues?_toValues ns hns]
termination_by structural ns => ns
end

/-! ### The shape of tree files -/

theorem isElementHead_elementFields : isElementHead (elementFields tag props children) = isTagForm tag := by
  cases props <;> cases children <;> simp [elementFields, isElementHead, elementKeys, Fields.get?]

theorem childrenAreTrees_elementFields :
    childrenAreTrees (elementFields tag props children) = areTrees (toValues children) := by
  cases props <;> cases children <;> simp [elementFields, childrenAreTrees, toValues, areTrees]

mutual
/-- The data form of a node has the shape of tree files if its tags have their form. -/
theorem isTree_toValue : ∀ n : Node, isTree n.toValue = n.tags.all isTagForm
  | .empty | .text _ | .literal _ => rfl
  | .fragment nodes => areTrees_toValues nodes
  | .element tag props children => by
    show (isElementHead (elementFields tag props children) && childrenAreTrees (elementFields tag props children)) =
      (isTagForm tag && (tagsIn children).all isTagForm)
    rw [isElementHead_elementFields, childrenAreTrees_elementFields, areTrees_toValues children]
termination_by structural n => n
theorem areTrees_toValues : ∀ ns : List Node, areTrees (toValues ns) = (tagsIn ns).all isTagForm
  | [] => rfl
  | n :: ns => by
    show (isTree n.toValue && areTrees (toValues ns)) = (n.tags ++ tagsIn ns).all isTagForm
    rw [List.all_append, isTree_toValue n, areTrees_toValues ns]
termination_by structural ns => ns
end

/-- The fields of an element of a tree file are those of an element. -/
theorem headOf?_isSome {fields : Fields} (h : isElementHead fields = true) : (headOf? fields).isSome = true := by
  simp only [isElementHead, Bool.and_eq_true] at h
  obtain ⟨⟨hkeys, htag⟩, hprops⟩ := h
  unfold headOf?
  rw [hkeys]
  split at htag
  · next tag htag' =>
    rw [htag']
    split at hprops
    · next props hprops' => simp [hprops']
    · next hprops' => simp [hprops']
    · cases hprops
  · cases htag

mutual
/-- What has the shape of tree files can be read. -/
theorem ofValue?_isSome : ∀ v : Value, isTree v = true → (ofValue? v).isSome = true
  | .null, _ | .string _, _ => rfl
  | .bool _, h | .number _, h => nomatch h
  | .list vs, h => by
    obtain ⟨nodes, hnodes⟩ := Option.isSome_iff_exists.mp (ofValues?_isSome vs h)
    show (match ofValues? vs with | some nodes => some (Node.fragment nodes) | none => byPosition? vs).isSome = true
    rw [hnodes]
    rfl
  | .object fields, h => by
    obtain ⟨hhead, hchildren⟩ := Bool.and_eq_true_iff.mp h
    obtain ⟨⟨tag, props⟩, htag⟩ := Option.isSome_iff_exists.mp (headOf?_isSome hhead)
    obtain ⟨children, hchildren⟩ := Option.isSome_iff_exists.mp (childrenIn?_isSome fields hchildren)
    simp only [ofValue?, htag, hchildren, Option.isSome_some]
termination_by structural v => v
theorem ofValues?_isSome : ∀ vs : List Value, areTrees vs = true → (ofValues? vs).isSome = true
  | [], _ => rfl
  | v :: vs, h => by
    obtain ⟨hv, hvs⟩ := Bool.and_eq_true_iff.mp h
    obtain ⟨n, hn⟩ := Option.isSome_iff_exists.mp (ofValue?_isSome v hv)
    obtain ⟨ns, hns⟩ := Option.isSome_iff_exists.mp (ofValues?_isSome vs hvs)
    simp only [ofValues?, hn, hns, Option.isSome_some]
termination_by structural vs => vs
theorem childrenIn?_isSome : ∀ fields : List (String × Value), childrenAreTrees fields = true →
    (childrenIn? fields).isSome = true
  | [], _ => rfl
  | (k, .list vs) :: fields, h => by
    simp only [childrenAreTrees, Bool.and_eq_true] at h
    simp only [childrenIn?]
    split
    · next hk => exact ofValues?_isSome vs (by simpa [hk] using h.1)
    · exact childrenIn?_isSome fields h.2
  | (k, .null) :: fields, h | (k, .bool _) :: fields, h | (k, .number _) :: fields, h | (k, .string _) :: fields, h
  | (k, .object _) :: fields, h => by
    simp only [childrenAreTrees, Bool.and_eq_true] at h
    have hk : k ≠ "children" := by
      rintro rfl
      simp at h
    simp only [childrenIn?, if_neg hk]
    exact childrenIn?_isSome fields h.2
termination_by structural fields => fields
end

/-- A tree file of the right shape is never refused by the reader. -/
theorem ofText_ne_unreadable (s : String) : ofText s ≠ .error .unreadable := by
  unfold ofText
  split
  · nofun
  · next v hv =>
    split
    · next htree =>
      obtain ⟨node, hnode⟩ := Option.isSome_iff_exists.mp (ofValue?_isSome v htree)
      rw [hnode]
      nofun
    · nofun

/-- A tree without literal text is read back from its data form. This has the shape of tree files just if the pattern
    of tags matches all its tags. And what has the shape of tree files can be read, so that the reader refuses no
    file whose shape is right. -/
theorem toValue_read (n : Node) (hn : n.NoLiteral) :
    ofValue? n.toValue = some n ∧ (isTree n.toValue = true ↔ ∀ tag ∈ n.tags, matchesTag tag = true) ∧
      (∀ v, isTree v = true → (ofValue? v).isSome = true) ∧ ∀ s, ofText s ≠ .error .unreadable := by
  refine ⟨ofValue?_toValue n hn, ?_, ofValue?_isSome, ofText_ne_unreadable⟩
  rw [isTree_toValue, List.all_eq_true]
  simp only [isTagForm_eq_matches]

/-- A list of a text and an object could be an element by position, and is read as a fragment. -/
theorem toValue_read_positional :
    let n : Node := .fragment [.text "Role", .element "Ask.Text" [("name", .string "x")] [.empty, .text "y"]]
    n.NoLiteral ∧ ofValue? n.toValue = some n := by
  have hn : NoLiteral (.fragment [.text "Role", .element "Ask.Text" [("name", .string "x")] [.empty, .text "y"]]) :=
    ⟨trivial, ⟨trivial, trivial, trivial⟩, trivial⟩
  exact ⟨hn, (toValue_read _ hn).1⟩

end Node
end PromptForm
