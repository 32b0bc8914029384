import PromptForm.Proofs.Text.Parts
import PromptForm.Pattern.Reader

/-! # Tokens of patterns before a closing parenthesis

A text that is read to its end is read in the same way where a closing parenthesis follows it (`Continues`): no escape,
class or count that is complete takes the parenthesis for one of its characters. The exception is a text whose blanks
do not count and whose last line has a comment, for there the parenthesis belongs to the comment (`Swallows`). -/

namespace PromptForm.Pattern.Reader
variable {α β : Type} {f g : List Char → Option (α × List Char)} {cs rest rest' : List Char} {x : α} {c d : Char}
  {marks : Marks}

/-! ### Reading on -/

/-- What is left is an end of the text, and a closing parenthesis behind the text is left as well. -/
structure Continues (f : List Char → Option (α × List Char)) (cs : List Char) (x : α) (rest : List Char) : Prop where
  suffix : rest <:+ cs
  append : ∀ more, f (cs ++ ')' :: more) = some (x, rest ++ ')' :: more)

/-- A reader goes on from whatever it has read. -/
def Local (f : List Char → Option (α × List Char)) : Prop :=
  ∀ ⦃cs x rest⦄, f cs = some (x, rest) → Continues f cs x rest

/-- A closing parenthesis behind a text changes neither what is read nor that nothing is. -/
structure Blind (f : List Char → Option (α × List Char)) : Prop where
  suffix : ∀ {cs x rest}, f cs = some (x, rest) → rest <:+ cs
  append : ∀ cs more, f (cs ++ ')' :: more) = (f cs).map fun r => (r.1, r.2 ++ ')' :: more)

theorem Continues.cons (h : Continues f cs x rest) (hg : ∀ cs, g (c :: cs) = f cs) : Continues g (c :: cs) x rest :=
  ⟨h.suffix.trans (List.suffix_cons c cs), fun more => by rw [List.cons_append, hg, h.append]⟩

/-- One reader after another. -/
theorem Continues.then {y : β} {h : List Char → Option (β × List Char)} (hg : Continues h cs y rest')
    (hf : Continues f rest' x rest) (heq : ∀ {cs r}, h cs = some (y, r) → g cs = f r) : Continues g cs x rest :=
  ⟨hf.suffix.trans hg.suffix, fun more => by rw [heq (hg.append more), hf.append]⟩

theorem Continues.bind {y : β} {h : List Char → Option (β × List Char)} {f : β → List Char → Option (α × List Char)}
    (hh : Continues h cs y rest') (hf : Continues (f y) rest' x rest) :
    Continues (fun cs => (h cs).bind fun r => f r.1 r.2) cs x rest :=
  hh.then hf fun hcs => by rw [hcs, Option.bind_some]

theorem Local.checked (hf : Local f) (g : α → Option β) : Local fun cs => Reader.checked g (f cs) := by
  intro cs y rest h
  obtain ⟨⟨a, rest'⟩, ha, hy⟩ := Option.bind_eq_some_iff.mp h
  obtain ⟨b, hb, hrest⟩ := Option.map_eq_some_iff.mp hy
  cases hrest
  refine ⟨(hf ha).suffix, fun more => ?_⟩
  simp [Reader.checked, (hf ha).append more, hb]

theorem converted_eq_some {g : α → β} {read : Option (α × List Char)} {y : β} :
    converted g read = some (y, rest) ↔ ∃ a, read = some (a, rest) ∧ g a = y := by
  simp [converted]

theorem Local.converted (hf : Local f) (g : α → β) : Local fun cs => Reader.converted g (f cs) := by
  intro cs y rest h
  obtain ⟨a, ha, rfl⟩ := converted_eq_some.mp h
  exact ⟨(hf ha).suffix, fun more => converted_eq_some.mpr ⟨a, (hf ha).append more, rfl⟩⟩

theorem Blind.local (hf : Blind f) : Local f := fun cs _ _ h =>
  ⟨hf.suffix h, fun more => by rw [hf.append, h]; rfl⟩

theorem Blind.append_eq_none (hf : Blind f) (h : f cs = none) (more : List Char) : f (cs ++ ')' :: more) = none := by
  rw [hf.append, h, Option.map_none]

theorem Blind.bind {g : α → List Char → Option (β × List Char)} (hf : Blind f) (hg : ∀ a, Blind (g a)) :
    Blind fun cs => (f cs).bind fun r => g r.1 r.2 where
  suffix h := by
    obtain ⟨⟨a, rest⟩, ha, hx⟩ := Option.bind_eq_some_iff.mp h
    exact ((hg a).suffix hx).trans (hf.suffix ha)
  append cs more := by
    rw [hf.append]
    cases f cs with
    | none => rfl
    | some r => exact (hg r.1).append r.2 more

theorem Blind.or (hf : Blind f) (hg : Blind g) : Blind fun cs => (f cs).or (g cs) where
  suffix h := by
    rcases Option.or_eq_some_iff.mp h with h | ⟨-, h⟩
    · exact hf.suffix h
    · exact hg.suffix h
  append cs more := by
    rw [hf.append, hg.append]
    cases f cs <;> rfl

/-- A reader that looks at one character only. -/
theorem continues_head {g : Char → Option α} (h : (g c).map (·, cs) = some (x, rest))
    (hf : ∀ cs, f (c :: cs) = (g c).map (·, cs)) : Continues f (c :: cs) x rest := by
  obtain ⟨a, ha, heq⟩ := Option.map_eq_some_iff.mp h
  cases heq
  exact ⟨List.suffix_cons c cs, fun more => by rw [List.cons_append, hf, ha]; rfl⟩

theorem local_upTo (close : Char) : Local (upTo? close) := by
  intro cs x rest h
  unfold upTo? at h
  split at h
  · cases h
  · next c rest hdrop =>
    cases h
    have hne : cs.dropWhile (· != close) ≠ [] := hdrop ▸ List.cons_ne_nil _ _
    refine ⟨(List.suffix_cons c rest).trans (hdrop ▸ List.dropWhile_suffix _), fun more => ?_⟩
    rw [upTo?, Text.dropWhile_append_of_ne_nil hne, Text.takeWhile_append_of_ne_nil hne, hdrop]
    rfl

theorem afterPrefix_append_paren {form : List Char} (hform : ')' ∉ form) (cs more : List Char) :
    Text.afterPrefix? form (cs ++ ')' :: more) = (Text.afterPrefix? form cs).map (· ++ ')' :: more) := by
  induction form generalizing cs with
  | nil => rfl
  | cons p form ih =>
    rw [List.mem_cons, not_or] at hform
    cases cs with
    | nil => simp [Text.afterPrefix?, Ne.symm hform.1]
    | cons c cs =>
      simp only [List.cons_append, Text.afterPrefix?]
      split
      · exact ih hform.2 cs
      · rfl

theorem afterPrefix_suffix {form : List Char} (h : Text.afterPrefix? form cs = some rest) : rest <:+ cs :=
  ⟨form, (Text.eq_append_of_afterPrefix? h).symm⟩

theorem blind_formed {forms : List (String × α)} (hforms : ∀ form ∈ forms, ')' ∉ form.1.toList) :
    Blind (formed? forms) where
  suffix h := by
    obtain ⟨form, -, hform⟩ := List.exists_of_findSome?_eq_some h
    obtain ⟨r, hr, heq⟩ := Option.map_eq_some_iff.mp hform
    cases heq
    exact afterPrefix_suffix hr
  append cs more := by
    unfold formed?
    induction forms with
    | nil => rfl
    | cons form forms ih =>
      obtain ⟨hform, hforms⟩ := List.forall_mem_cons.mp hforms
      simp only [List.findSome?_cons, afterPrefix_append_paren hform]
      cases Text.afterPrefix? form.1.toList cs with
      | none => exact ih hforms
      | some rest => rfl

/-! ### Escapes -/

theorem local_property (negated : Bool) : Local (property? negated) := by
  intro cs x rest h
  unfold property? at h
  split at h
  · exact ((local_upTo '\x7d').checked (bracedProperty? negated) h).cons fun cs => by rw [property?]
  · next c cs hbrace => exact continues_head h fun cs => by rw [property?]; exact hbrace
  · cases h

theorem local_hexChar (count : Nat) : Local (hexChar? count) := by
  intro cs x rest h
  unfold hexChar? at h
  split at h
  · exact ((local_upTo '\x7d').checked (fun code => (hexValue? code).bind charOf?) h).cons fun cs => by rw [hexChar?]
  · next hbrace =>
    split at h
    · cases h
    · next hlength =>
      obtain ⟨c, hc, heq⟩ := Option.map_eq_some_iff.mp h
      cases heq
      have hle : count ≤ cs.length := Nat.not_lt.mp hlength
      refine ⟨List.drop_suffix count cs, fun more => ?_⟩
      rw [hexChar?, if_neg (by rw [List.length_append]; omega), List.take_append_of_le_length hle,
        List.drop_append_of_le_length hle, hc]
      · rfl
      · cases cs with
        | nil => exact nofun
        | cons d cs => exact fun _ heq => hbrace cs ((List.cons_eq_cons.mp heq).1 ▸ rfl)

theorem local_escapedChar : Local escapedChar? := by
  intro cs x rest h
  unfold escapedChar? at h
  split at h
  · exact (local_hexChar 2 h).cons fun cs => by rw [escapedChar?]
  · exact (local_hexChar 4 h).cons fun cs => by rw [escapedChar?]
  · exact (local_hexChar 8 h).cons fun cs => by rw [escapedChar?]
  · refine continues_head h fun cs => ?_
    rw [escapedChar?] <;> assumption
  · cases h

theorem local_escapedSet (marks : Marks) : Local (escapedSet? marks) := by
  intro cs x rest h
  unfold escapedSet? at h
  split at h
  · exact (local_property false h).cons fun cs => by rw [escapedSet?]
  · exact (local_property true h).cons fun cs => by rw [escapedSet?]
  · refine continues_head h fun cs => ?_
    rw [escapedSet?] <;> assumption
  · cases h

/-- Where a single character is escaped and no set, the character decides that there is no set. -/
theorem escapedSet_append (hset : escapedSet? marks cs = none) (h : escapedChar? cs = some (c, rest))
    (more : List Char) : escapedSet? marks (cs ++ more) = none := by
  unfold escapedSet? at hset
  split at hset
  · cases h
  · cases h
  · rw [List.cons_append, escapedSet?]
    · simpa using hset
    all_goals assumption
  · cases h

theorem blind_escapedAnchor : Blind escapedAnchor? := blind_formed (by decide +kernel)

theorem local_escape (marks : Marks) : Local (escape? marks) := by
  intro cs x rest h
  unfold escape? at h
  split at h
  · next a rest ha =>
    cases h
    have hlocal := blind_escapedAnchor.local ha
    exact ⟨hlocal.suffix, fun more => by rw [escape?, hlocal.append]⟩
  · next hanchor =>
    have hnone := blind_escapedAnchor.append_eq_none hanchor
    split at h
    · next s rest hs =>
      cases h
      have hlocal := local_escapedSet marks hs
      exact ⟨hlocal.suffix, fun more => by rw [escape?, hnone]; simp only [hlocal.append]⟩
    · next hset =>
      obtain ⟨c, hc, rfl⟩ := converted_eq_some.mp h
      have hlocal := local_escapedChar hc
      refine ⟨hlocal.suffix, fun more => ?_⟩
      rw [escape?, hnone]
      simp only [escapedSet_append hset hc, hlocal.append]
      rfl

theorem local_classItem (marks : Marks) : Local (classItem? marks) := by
  intro cs x rest h
  unfold classItem? at h
  split at h
  · cases h
  · split at h
    · next s rest hs =>
      cases h
      have hlocal := local_escapedSet marks hs
      refine ⟨hlocal.suffix.trans (List.suffix_cons _ _), fun more => ?_⟩
      rw [List.cons_append, classItem?]
      simp only [hlocal.append]
    · next hset =>
      obtain ⟨c, hc, rfl⟩ := converted_eq_some.mp h
      have hlocal := local_escapedChar hc
      refine ⟨hlocal.suffix.trans (List.suffix_cons _ _), fun more => ?_⟩
      rw [List.cons_append, classItem?]
      simp only [escapedSet_append hset hc, hlocal.append]
      rfl
  · next c cs hescape =>
    cases h
    refine ⟨List.suffix_cons c _, fun more => ?_⟩
    rw [List.cons_append, classItem?]
    exact hescape

/-! ### Blanks and comments -/

/-- A number sign on the last line, which is where a comment may begin. -/
def HasComment (cs : List Char) : Prop := ∃ before line, cs = before ++ '#' :: line ∧ '\n' ∉ line

theorem HasComment.of_suffix (h : HasComment rest) (hsuffix : rest <:+ cs) : HasComment cs := by
  obtain ⟨before, line, rfl, hline⟩ := h
  obtain ⟨taken, rfl⟩ := hsuffix
  exact ⟨taken ++ before, line, (List.append_assoc _ _ _).symm, hline⟩

theorem dropBlank_suffix (comment : Bool) (cs : List Char) : dropBlank comment cs <:+ cs := by
  fun_induction dropBlank comment cs with
  | case1 => exact List.suffix_refl []
  | case2 c cs ih => exact ih.trans (List.suffix_cons c cs)
  | case3 _ c cs _ _ ih => exact ih.trans (List.suffix_cons c cs)
  | case4 _ cs _ _ ih => exact ih.trans (List.suffix_cons '#' cs)
  | case5 => exact List.suffix_refl _

theorem dropBlank_append {comment : Bool} (h : dropBlank comment cs ≠ []) (more : List Char) :
    dropBlank comment (cs ++ more) = dropBlank comment cs ++ more := by
  fun_induction dropBlank comment cs with
  | case1 => exact absurd rfl h
  | case2 c cs ih => simp [dropBlank, ih h]
  | case3 _ c cs hcomment hblank ih => simp [dropBlank, hcomment, hblank, ih h]
  | case4 _ cs hcomment hblank ih => simp [dropBlank, hcomment, hblank, ih h]
  | case5 _ c cs hcomment hblank hsign => simp [dropBlank, hcomment, hblank, hsign]

/-- Where nothing is left of a text, what follows is read outside of comments, or inside of the last one. -/
theorem dropBlank_eq_nil {comment : Bool} (h : dropBlank comment cs = []) :
    (∀ more, dropBlank comment (cs ++ more) = dropBlank false more) ∨
      (comment = true ∧ '\n' ∉ cs ∨ HasComment cs) ∧ ∀ more, dropBlank comment (cs ++ more) = dropBlank true more := by
  -- The text ends; a character of a comment; a blank; the sign that begins a comment; anything else.
  fun_induction dropBlank comment cs with
  | case1 comment =>
    cases comment with
    | true => exact .inr ⟨.inl ⟨rfl, List.not_mem_nil⟩, fun more => rfl⟩
    | false => exact .inl fun more => rfl
  | case2 c cs ih =>
    simp only [List.cons_append, dropBlank, if_true]
    rcases ih h with hmore | ⟨⟨hc, hline⟩ | hhas, hmore⟩
    · exact .inl hmore
    · exact .inr ⟨.inl ⟨trivial, by simpa using ⟨Ne.symm (by simpa using hc), hline⟩⟩, hmore⟩
    · exact .inr ⟨.inr (hhas.of_suffix (List.suffix_cons c cs)), hmore⟩
  | case3 _ c cs hcomment hblank ih =>
    simp only [List.cons_append, dropBlank, hcomment, hblank, if_true]
    rcases ih h with hmore | ⟨⟨hc, -⟩ | hhas, hmore⟩
    · exact .inl hmore
    · cases hc
    · exact .inr ⟨.inr (hhas.of_suffix (List.suffix_cons c cs)), hmore⟩
  | case4 _ cs hcomment hblank ih =>
    simp only [List.cons_append, dropBlank, hcomment, hblank, if_true]
    rcases ih h with hmore | ⟨⟨-, hline⟩ | hhas, hmore⟩
    · exact .inl hmore
    · exact .inr ⟨.inr ⟨[], cs, rfl, hline⟩, hmore⟩
    · exact .inr ⟨.inr (hhas.of_suffix (List.suffix_cons '#' cs)), hmore⟩
  | case5 => cases h

theorem dropBlank_comment : ∀ {line : List Char}, '\n' ∉ line → dropBlank true line = []
  | [], _ => rfl
  | c :: line, h => by
    rw [List.mem_cons, not_or] at h
    have hc : (c != '\n') = true := by simpa using Ne.symm h.1
    simp [dropBlank, hc, dropBlank_comment h.2]

theorem skip_suffix (marks : Marks) (cs : List Char) : skip marks cs <:+ cs := by
  unfold skip
  split
  · exact dropBlank_suffix false cs
  · exact List.suffix_refl cs

theorem skip_append (h : skip marks cs ≠ []) (more : List Char) : skip marks (cs ++ more) = skip marks cs ++ more := by
  unfold skip at h ⊢
  split
  · exact dropBlank_append (by simpa [*] using h) more
  · rfl

theorem skip_paren (marks : Marks) (more : List Char) : skip marks (')' :: more) = ')' :: more := by
  have hblank : Text.isBlank ')' = false := by decide +kernel
  simp [skip, dropBlank, hblank]

/-- The readers that a comment at the end of a text hides a closing parenthesis from. -/
structure Swallows (f : List Char → Option (α × List Char)) (cs : List Char) (x : α) : Prop where
  comment : HasComment cs
  append : ∀ more, '\n' ∉ more → f (cs ++ ')' :: more) = some (x, [])

theorem skip_eq_nil (h : skip marks cs = []) : (∀ more, skip marks (cs ++ ')' :: more) = ')' :: more) ∨
    HasComment cs ∧ ∀ more, '\n' ∉ more → skip marks (cs ++ ')' :: more) = [] := by
  unfold skip at h
  split at h
  · next hverbose =>
    rcases dropBlank_eq_nil h with hmore | ⟨hcomment, hmore⟩
    · refine .inl fun more => ?_
      rw [skip, if_pos hverbose, hmore, ← if_pos (c := marks.verbose = true) hverbose (t := dropBlank false _)]
      exact skip_paren marks more
    · refine .inr ⟨hcomment.resolve_left (by simp), fun more hline => ?_⟩
      rw [skip, if_pos hverbose, hmore, dropBlank_comment]
      simpa using hline
  · subst h
    exact .inl fun more => skip_paren marks more

/-! ### Bracketed classes -/

theorem blind_asciiName (negated : Bool) : Blind (asciiName? negated) where
  suffix h := by
    obtain ⟨rest, hrest, hset⟩ := Option.bind_eq_some_iff.mp h
    obtain ⟨s, -, heq⟩ := Option.map_eq_some_iff.mp hset
    cases heq
    exact (afterPrefix_suffix hrest).trans (List.dropWhile_suffix _)
  append cs more := by
    have hparen : Char.isAlpha ')' = false := by decide
    rw [asciiName?, asciiName?, Text.dropWhile_append_stop hparen, Text.takeWhile_append_stop hparen,
      afterPrefix_append_paren (by decide)]
    cases Text.afterPrefix? [':', ']'] (cs.dropWhile Char.isAlpha) with
    | none => rfl
    | some rest => cases asciiClass? (String.ofList (cs.takeWhile Char.isAlpha)) <;> rfl

theorem blind_asciiItem : Blind asciiItem? := (blind_formed (by decide +kernel)).bind blind_asciiName

theorem blind_operation : Blind operation? := blind_formed (by decide +kernel)

/-- Where something is left of a class after its start. -/
theorem continues_classLead {negated : Bool} {state : ClassState} (h : classLead marks negated cs = (state, rest))
    (hrest : rest ≠ []) : Continues (fun cs => some (classLead marks negated cs)) cs state rest := by
  cases cs with
  | nil =>
    cases h
    exact absurd rfl hrest
  | cons c cs =>
    rw [classLead] at h
    split at h
    · next hc =>
      cases h
      exact ⟨List.suffix_cons c _, fun more => by rw [List.cons_append, classLead, if_pos hc]⟩
    · next hc =>
      cases h
      refine ⟨List.dropWhile_suffix _, fun more => ?_⟩
      have hdash : (')' == '-') = false := by decide
      rw [List.cons_append, classLead, if_neg hc, ← List.cons_append,
        Text.dropWhile_append_stop (p := (· == '-')) hdash, Text.takeWhile_append_stop (p := (· == '-')) hdash]

theorem skip_cons_append (h : skip marks cs = c :: rest) (more : List Char) :
    skip marks (cs ++ more) = c :: (rest ++ more) := by
  rw [skip_append (h ▸ List.cons_ne_nil c rest), h, List.cons_append]

theorem suffix_of_skip (h : skip marks cs = c :: rest) : rest <:+ cs :=
  (List.suffix_cons c rest).trans (h ▸ skip_suffix marks cs)

theorem continues_classSign {negated : Bool} (h : classSign marks cs = (negated, rest)) (hrest : rest ≠ []) :
    Continues (fun cs => some (classSign marks cs)) cs negated rest := by
  unfold classSign at h
  split at h
  · cases h
    exact absurd rfl hrest
  · next c tail hskip =>
    split at h
    · next hc =>
      cases h
      refine ⟨(skip_suffix marks tail).trans (suffix_of_skip hskip), fun more => ?_⟩
      rw [classSign, skip_cons_append hskip]
      simp only [if_pos hc, skip_append hrest]
    · next hc =>
      cases h
      refine ⟨hskip ▸ skip_suffix marks cs, fun more => ?_⟩
      rw [classSign, skip_cons_append hskip]
      simp only [if_neg hc, List.cons_append]

theorem continues_classStart {state : ClassState} (h : classStart marks cs = (state, rest)) (hrest : rest ≠ []) :
    Continues (fun cs => some (classStart marks cs)) cs state rest := by
  obtain ⟨negated, tail, hsign⟩ : ∃ negated tail, classSign marks cs = (negated, tail) := ⟨_, _, rfl⟩
  rw [classStart, hsign] at h
  have htail : tail ≠ [] := fun hnil => by
    rw [hnil] at h
    cases h
    exact hrest rfl
  refine (continues_classSign hsign htail).then (continues_classLead h hrest) fun {cs r} hcs => ?_
  rw [classStart, Option.some.inj hcs]

theorem continues_rangeTo {item : ClassItem} {set : CharSet} (h : rangeTo? marks item cs = some (set, rest)) :
    Continues (rangeTo? marks item) cs set rest := by
  unfold rangeTo? at h
  split at h
  · next low high rest' hitem =>
    split at h
    · next hle =>
      cases h
      have hlocal := local_classItem marks hitem
      exact ⟨hlocal.suffix, fun more => by simp only [rangeTo?, hlocal.append, if_pos hle]⟩
    · cases h
  · cases h

/-- An item at the end of an unfinished class may begin a range with what follows, hence the condition. -/
theorem continues_rangeFrom {item : ClassItem} {set : CharSet} (h : rangeFrom? marks item cs = some (set, rest))
    (hrest : skip marks rest ≠ []) : Continues (rangeFrom? marks item) cs set rest := by
  unfold rangeFrom? at h
  split at h
  · next hskip =>
    cases h
    exact absurd hskip hrest
  · next c tail hskip =>
    split at h
    · next hc =>
      split at h
      · cases h
      · next d last htail =>
        split at h
        -- A dash before the bracket or before another dash is an item of its own.
        · next hd =>
          cases h
          refine ⟨List.suffix_refl _, fun more => ?_⟩
          rw [rangeFrom?, skip_cons_append hskip]
          simp only [if_pos hc, skip_cons_append htail, if_pos hd]
        · next hd =>
          have hrange := continues_rangeTo h
          refine ⟨hrange.suffix.trans ((htail ▸ skip_suffix marks tail).trans (suffix_of_skip hskip)), fun more => ?_⟩
          rw [rangeFrom?, skip_cons_append hskip]
          simp only [if_pos hc, skip_cons_append htail, if_neg hd]
          exact hrange.append more
    · next hc =>
      cases h
      refine ⟨List.suffix_refl _, fun more => ?_⟩
      rw [rangeFrom?, skip_cons_append hskip]
      simp only [if_neg hc]

theorem continues_classRange {set : CharSet} (h : classRange? marks cs = some (set, rest))
    (hrest : skip marks rest ≠ []) : Continues (classRange? marks) cs set rest := by
  obtain ⟨⟨item, tail⟩, hitem, hfrom⟩ := Option.bind_eq_some_iff.mp h
  exact (local_classItem marks hitem).bind (continues_rangeFrom hfrom hrest)

/-- A class goes on after a token unless the token closes it, so that something is left. -/
theorem continues_classToken {t : ClassToken} (h : classToken? marks cs = some (t, rest))
    (hrest : t = .close ∨ skip marks rest ≠ []) : Continues (classToken? marks) cs t rest := by
  unfold classToken? at h
  split at h
  · cases h
  · next c tail hskip =>
    have hfirst : c :: tail <:+ cs := hskip ▸ skip_suffix marks cs
    have htail : tail <:+ cs := suffix_of_skip hskip
    -- A closing bracket, an opening one, or else an operation, an item or a range.
    split at h
    · next hc =>
      cases h
      refine ⟨htail, fun more => ?_⟩
      rw [classToken?, skip_cons_append hskip]
      simp only [if_pos hc]
    · next hc =>
      split at h
      · next hopen =>
        split at h
        · next s rest hitem =>
          cases h
          have hlocal := blind_asciiItem.local hitem
          refine ⟨hlocal.suffix.trans htail, fun more => ?_⟩
          rw [classToken?, skip_cons_append hskip]
          simp only [if_neg hc, if_pos hopen, hlocal.append]
        · next hitem =>
          cases h
          refine ⟨htail, fun more => ?_⟩
          rw [classToken?, skip_cons_append hskip]
          simp only [if_neg hc, if_pos hopen, blind_asciiItem.append_eq_none hitem]
      · next hopen =>
        split at h
        · next op rest hop =>
          cases h
          have hlocal := blind_operation.local hop
          refine ⟨hlocal.suffix.trans hfirst, fun more => ?_⟩
          rw [classToken?, skip_cons_append hskip]
          simp only [if_neg hc, if_neg hopen, ← List.cons_append, hlocal.append]
        · next hop =>
          obtain ⟨set, hset, rfl⟩ := converted_eq_some.mp h
          -- A set is no closing bracket, so something is left that ends its range.
          have hrange := continues_classRange hset (hrest.resolve_left nofun)
          refine ⟨hrange.suffix.trans hfirst, fun more => ?_⟩
          rw [classToken?, skip_cons_append hskip]
          simp only [if_neg hc, if_neg hopen, ← List.cons_append, blind_operation.append_eq_none hop, hrange.append]
          rfl

theorem classBody_ne_nil {fuel : Nat} {state : ClassState} {part : ClassPart}
    (h : classBody fuel marks state cs = some (part, rest)) : skip marks cs ≠ [] := fun hnil => by
  cases fuel with
  | zero => cases h
  | succ fuel =>
    rw [classBody, classToken?, hnil] at h
    cases h

theorem ne_nil_of_skip (h : skip marks cs ≠ []) : cs ≠ [] := fun hnil => h <| by
  rw [hnil, skip]
  split <;> rfl

theorem classStart_of_nil (h : skip marks cs = []) : (classStart marks cs).2 = [] := by
  simp [classStart, classSign, h, classLead]

/-- A class that is closed goes on, with any fuel beyond what it took. -/
theorem continues_classBody {fuel fuel' : Nat} (hfuel : fuel ≤ fuel') {state : ClassState} {part : ClassPart}
    (h : classBody fuel marks state cs = some (part, rest)) : Continues (classBody fuel' marks state) cs part rest := by
  induction fuel generalizing fuel' state cs part rest with
  | zero => cases h
  | succ fuel ih =>
    obtain ⟨fuel', rfl⟩ := Nat.exists_eq_add_of_le' (Nat.le_trans (Nat.le_add_left 1 fuel) hfuel)
    have hle : fuel ≤ fuel' := Nat.le_of_succ_le_succ hfuel
    rw [classBody] at h
    split at h
    · cases h
    · next tail htoken =>
      cases h
      have ht := continues_classToken htoken (.inl rfl)
      exact ⟨ht.suffix, fun more => by rw [classBody, ht.append]⟩
    · next tail htoken =>
      obtain ⟨⟨inner, tail'⟩, hinner, hlast⟩ := Option.bind_eq_some_iff.mp h
      have hlead := ne_nil_of_skip (classBody_ne_nil hinner)
      have htail : skip marks tail ≠ [] := fun hnil => hlead (classStart_of_nil hnil)
      -- An inner class: its start, its body, and then the rest of the class around it.
      let next (part : ClassPart) := classBody fuel' marks (state.addPart part)
      have hlast : Continues (next inner) tail' part rest := ih hle hlast
      have hstart : Continues (fun cs => some (classStart marks cs)) tail _ _ := continues_classStart rfl hlead
      refine (continues_classToken htoken (.inr htail)).then ((hstart.bind (ih hle hinner)).bind hlast) fun hcs => ?_
      rw [classBody, hcs]
      rfl
    · next op tail htoken =>
      refine (continues_classToken htoken (.inr (classBody_ne_nil h))).then (ih hle h) fun hcs => ?_
      rw [classBody, hcs]
    · next set tail htoken =>
      refine (continues_classToken htoken (.inr (classBody_ne_nil h))).then (ih hle h) fun hcs => ?_
      rw [classBody, hcs]

theorem local_bracketed (marks : Marks) : Local (bracketed? marks) := by
  intro cs part rest h
  obtain ⟨state, lead, hlead⟩ : ∃ state lead, classStart marks cs = (state, lead) := ⟨_, _, rfl⟩
  rw [bracketed?, hlead] at h
  have hstart := continues_classStart hlead (ne_nil_of_skip (classBody_ne_nil h))
  refine ⟨(continues_classBody (Nat.le_refl _) h).suffix.trans hstart.suffix, fun more => ?_⟩
  have hle : lead.length + 1 ≤ (lead ++ ')' :: more).length + 1 := by
    rw [List.length_append]
    omega
  rw [bracketed?, Option.some.inj (hstart.append more)]
  exact (continues_classBody hle h).append more

/-! ### Repetition -/

theorem trimStart_append_paren (cs more : List Char) :
    Text.trimStart (cs ++ ')' :: more) = Text.trimStart cs ++ ')' :: more :=
  Text.dropWhile_append_stop (by decide +kernel) cs more

theorem trimStart_suffix (cs : List Char) : Text.trimStart cs <:+ cs := List.dropWhile_suffix _

theorem blind_count : Blind count? where
  suffix {cs n rest} h := by
    unfold count? at h
    dsimp only at h
    split at h
    · cases h
    · cases h
      exact (trimStart_suffix _).trans ((List.dropWhile_suffix _).trans (trimStart_suffix cs))
  append cs more := by
    have hparen : Char.isDigit ')' = false := by decide
    simp only [count?, trimStart_append_paren, Text.takeWhile_append_stop hparen, Text.dropWhile_append_stop hparen]
    split <;> rfl

theorem Blind.trimStart (hf : Blind f) : Blind fun cs => f (Text.trimStart cs) where
  suffix h := (hf.suffix h).trans (trimStart_suffix _)
  append cs more := by rw [trimStart_append_paren, hf.append]

theorem blind_highBound (low : Nat) : Blind (highBound? low) :=
  blind_count.bind (g := fun high => formed? (if low ≤ high then [("\x7d", (low, some high))] else [])) fun high =>
    blind_formed (by split <;> simp)

theorem blind_upperBound (low : Nat) : Blind (upperBound? low) :=
  (blind_formed (by simp)).trimStart.or (blind_highBound low)

theorem blind_bounds : Blind bounds? :=
  blind_count.bind (g := fun low cs => (formed? [("\x7d", (low, some low))] cs).or
    ((formed? [(",", ())] cs).bind fun comma => upperBound? low comma.2)) fun low =>
      (blind_formed (by simp)).or ((blind_formed (by simp)).bind fun _ => blind_upperBound low)

theorem dropLazy_append (cs more : List Char) : dropLazy (cs ++ ')' :: more) = dropLazy cs ++ ')' :: more := by
  cases cs with
  | nil => rfl
  | cons c cs =>
    rw [List.cons_append]
    by_cases hc : c = '?'
    · subst hc
      rfl
    · rw [dropLazy, dropLazy, List.cons_append]
      all_goals exact fun _ heq => hc (List.cons_eq_cons.mp heq).1

theorem dropLazy_suffix (cs : List Char) : dropLazy cs <:+ cs := by
  unfold dropLazy
  split
  · exact List.suffix_cons _ _
  · exact List.suffix_refl _

/-! ### Groups -/

theorem local_groupName : Local groupName? := (local_upTo '>').checked (Option.guard isGroupName)

theorem blind_nameStart : Blind nameStart? := blind_formed (by decide +kernel)

theorem local_marks {off dangling : Bool} {seen : List Char} : Local (marks? off seen dangling marks) := by
  intro cs x rest h
  induction cs generalizing off seen dangling marks with
  | nil => cases h
  | cons c cs ih =>
    rw [marks?] at h
    split at h
    · next hstop =>
      split at h
      · cases h
      · next hsound =>
        cases h
        exact ⟨List.suffix_refl _, fun more => by rw [List.cons_append, marks?, if_pos hstop, if_neg hsound]⟩
    · next hstop =>
      split at h
      · next hdash =>
        split at h
        · cases h
        · next hoff => exact (ih h).cons fun cs => by rw [marks?, if_neg hstop, if_pos hdash, if_neg hoff]
      · next hdash =>
        split at h
        · cases h
        · next hseen =>
          split at h
          · next marks' hswitched =>
            exact (ih h).cons fun cs => by rw [marks?, if_neg hstop, if_neg hdash, if_neg hseen, hswitched]
          · cases h

theorem continues_marked {t : Token} (h : marked? marks cs = some (t, rest)) : Continues (marked? marks) cs t rest := by
  unfold marked? at h
  split at h
  · next tail hname =>
    refine (blind_nameStart.local hname).then (local_groupName.converted (fun name => .group (some name) marks) h)
      fun hcs => ?_
    rw [marked?, hcs]
  · next hname =>
    have hnone := blind_nameStart.append_eq_none hname
    split at h
    case h_1 inner rest hmarks | h_2 inner rest hmarks =>
      cases h
      have hlocal := local_marks hmarks
      refine ⟨(List.suffix_cons _ _).trans hlocal.suffix, fun more => ?_⟩
      simp only [marked?, hnone, hlocal.append, List.cons_append]
    case h_3 => cases h

/-- A group without anything in it may be marked by what follows, hence the condition. -/
theorem continues_opening {t : Token} (h : opening? marks cs = some (t, rest))
    (hrest : rest ≠ [] ∨ ∀ name inner, t ≠ .group name inner) : Continues (opening? marks) cs t rest := by
  unfold opening? at h
  split at h
  · cases h
    rcases hrest with hrest | ht
    · exact absurd rfl hrest
    · exact absurd rfl (ht none marks)
  · next c tail hskip =>
    split at h
    · next hc =>
      have hmarked := continues_marked h
      refine ⟨hmarked.suffix.trans (suffix_of_skip hskip), fun more => ?_⟩
      rw [opening?, skip_cons_append hskip]
      simp only [if_pos hc, hmarked.append]
    · next hc =>
      cases h
      refine ⟨hskip ▸ skip_suffix marks cs, fun more => ?_⟩
      rw [opening?, skip_cons_append hskip]
      simp only [if_neg hc, List.cons_append]

/-! ### Tokens -/

theorem continues_tokenFrom {t : Token} (h : tokenFrom? marks c cs = some (t, rest))
    (hrest : rest ≠ [] ∨ ∀ name inner, t ≠ .group name inner) : Continues (tokenFrom? marks c) cs t rest := by
  unfold tokenFrom? at h
  split at h
  case h_2 => exact continues_opening h hrest
  case h_3 => exact (local_bracketed marks).converted (fun part => Token.atom ⟨.one part.set, part.depth, []⟩) h
  case h_4 => exact (local_escape marks).converted (fun p => Token.atom ⟨p, 0, []⟩) h
  -- A question mark behind a repetition belongs to it, but what follows is never one.
  case h_8 | h_9 | h_10 =>
    cases h
    exact ⟨dropLazy_suffix cs, fun more => by rw [← dropLazy_append]; rfl⟩
  case h_11 =>
    obtain ⟨⟨bounds, tail⟩, hbounds, heq⟩ := Option.map_eq_some_iff.mp h
    cases heq
    have hlocal := blind_bounds.local hbounds
    refine ⟨(dropLazy_suffix tail).trans hlocal.suffix, fun more => ?_⟩
    rw [← dropLazy_append, tokenFrom?, hlocal.append]
    rfl
  case h_1 | h_5 | h_6 | h_7 =>
    cases h
    exact ⟨List.suffix_refl _, fun more => rfl⟩
  case h_12 =>
    cases h
    refine ⟨List.suffix_refl _, fun more => ?_⟩
    rw [tokenFrom?]
    all_goals assumption

/-- Every token goes on, unless a comment ends the text or it is the opening of a group with nothing in it. -/
theorem continues_token {t : Token} (h : token? marks cs = some (t, rest)) : Continues (token? marks) cs t rest ∨
    rest = [] ∧ (t = .stop ∧ Swallows (token? marks) cs t ∨ ∃ name inner, t = .group name inner) := by
  unfold token? at h
  split at h
  · next hskip =>
    cases h
    rcases skip_eq_nil hskip with hmore | ⟨hcomment, hmore⟩
    · exact .inl ⟨List.nil_suffix, fun more => by rw [token?, hmore]; rfl⟩
    · exact .inr ⟨rfl, .inl ⟨rfl, hcomment, fun more hline => by rw [token?, hmore more hline]⟩⟩
  · next c tail hskip =>
    split at h
    · next hc =>
      cases h
      refine .inl ⟨hskip ▸ skip_suffix marks cs, fun more => ?_⟩
      rw [token?, skip_cons_append hskip]
      simp only [if_pos hc, List.cons_append]
    · next hc =>
      by_cases hrest : rest ≠ [] ∨ ∀ name inner, t ≠ .group name inner
      · have hfrom := continues_tokenFrom h hrest
        refine .inl ⟨hfrom.suffix.trans (suffix_of_skip hskip), fun more => ?_⟩
        rw [token?, skip_cons_append hskip]
        simp only [if_neg hc, hfrom.append]
      -- Only a group that has just been opened can end the text here.
      · obtain ⟨hnil, hgroup⟩ := not_or.mp hrest
        obtain ⟨name, hname⟩ := Classical.not_forall.mp hgroup
        obtain ⟨inner, hinner⟩ := Classical.not_forall.mp hname
        exact .inr ⟨Classical.not_not.mp hnil, .inr ⟨name, inner, Classical.not_not.mp hinner⟩⟩

end PromptForm.Pattern.Reader
