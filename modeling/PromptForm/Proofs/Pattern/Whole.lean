import PromptForm.Proofs.Pattern.Tokens
import PromptForm.Proofs.Pattern.Words

/-! # Patterns of whole texts

A text between `^(?:` and `)$` writes the pattern that it writes alone, between anchors at both ends. Two things get in
the way: a comment at the end of the text hides the closing parenthesis, and the group and the sequence around are two
more levels of operators, which a pattern near the limit has no room for (`Pattern.fitsWhole`). -/

namespace PromptForm.Pattern
namespace Reader
variable {α β : Type} {f g : List Char → Option (α × List Char)} {cs rest rest' : List Char} {x : α} {marks : Marks}
  {fuel : Nat} {s s' : Progress} {part : Part} {t : Token}

/-! ### Alternatives before a closing parenthesis -/

theorem Swallows.then {y : β} {h : List Char → Option (β × List Char)} (hg : Continues h cs y rest')
    (hf : Swallows f rest' x) (heq : ∀ {cs r}, h cs = some (y, r) → g cs = f r) : Swallows g cs x :=
  ⟨hf.comment.of_suffix hg.suffix, fun more hline => by rw [heq (hg.append more), hf.append more hline]⟩

theorem alternatives_next (htoken : token? s.marks cs = some (t, rest)) (hnext : s.next? t = some s') :
    alternatives (fuel + 1) s cs = alternatives fuel s' rest := by
  rw [alternatives, htoken]
  cases t with
  | stop => cases hnext
  | group => cases hnext
  | _ => simp only [hnext]

theorem alternatives_group {name : Option (List Char)} {inner : Marks} {p : Part}
    (htoken : token? s.marks cs = some (.group name inner, rest))
    (hgroup : alternatives fuel { marks := inner } rest = some (p, ')' :: rest')) :
    alternatives (fuel + 1) s cs = alternatives fuel (s.add (p.inGroup name)) rest' := by
  rw [alternatives, htoken]
  simp only [hgroup]

theorem alternatives_unclosed {name : Option (List Char)} {inner : Marks} {p : Part}
    (htoken : token? s.marks cs = some (.group name inner, rest))
    (hgroup : alternatives fuel { marks := inner } rest = some (p, [])) : alternatives (fuel + 1) s cs = none := by
  rw [alternatives, htoken]
  simp only [hgroup]

/-- Alternatives that were read go on where a closing parenthesis follows them, with any fuel beyond what they took, or
    the text ends with them in a comment that swallows it. -/
def Behind (fuel : Nat) (s : Progress) (cs : List Char) (part : Part) (rest : List Char) : Prop :=
  (∀ fuel' ≥ fuel, Continues (alternatives fuel' s) cs part rest) ∨
    rest = [] ∧ ∀ fuel' ≥ fuel, Swallows (alternatives fuel' s) cs part

theorem Behind.of_step (h : (∀ fuel' ≥ fuel, Continues (alternatives (fuel' + 1) s) cs part rest) ∨
      rest = [] ∧ ∀ fuel' ≥ fuel, Swallows (alternatives (fuel' + 1) s) cs part) :
    Behind (fuel + 1) s cs part rest := by
  have hsucc : ∀ {P : Nat → Prop}, (∀ fuel' ≥ fuel, P (fuel' + 1)) → ∀ fuel' ≥ fuel + 1, P fuel' := fun hP fuel' hle => by
    obtain ⟨fuel', rfl⟩ := Nat.exists_eq_add_of_le' (Nat.le_trans (Nat.le_add_left 1 fuel) hle)
    exact hP fuel' (Nat.le_of_succ_le_succ hle)
  exact h.imp (fun hgo => hsucc hgo) (And.imp_right fun hgo => hsucc hgo)

/-- The alternatives end at the end of the text, or at a closing parenthesis. -/
theorem Behind.stop (htoken : token? s.marks cs = some (.stop, rest)) : Behind (fuel + 1) s cs s.part rest := by
  apply Behind.of_step
  rcases continues_token htoken with ht | ⟨rfl, ⟨-, ht⟩ | ⟨_, _, ht⟩⟩
  · exact .inl fun fuel' _ => ⟨ht.suffix, fun more => by rw [alternatives, ht.append]⟩
  · exact .inr ⟨rfl, fun fuel' _ => ⟨ht.comment, fun more hline => by rw [alternatives, ht.append more hline]⟩⟩
  · cases ht

/-- A group is closed, so neither it nor the token that begins it can end the text. -/
theorem Behind.group {name : Option (List Char)} {inner : Marks} {p : Part} {tail last : List Char}
    (htoken : token? s.marks cs = some (.group name inner, tail))
    (hinner : Behind fuel { marks := inner } tail p (')' :: last))
    (h : Behind fuel (s.add (p.inGroup name)) last part rest) : Behind (fuel + 1) s cs part rest := by
  have hclosed := hinner.resolve_right fun hnil => nomatch hnil.1
  have ht : Continues (token? s.marks) cs (.group name inner) tail := by
    refine (continues_token htoken).resolve_right fun hnil => ?_
    have hsuffix := (hclosed fuel (Nat.le_refl _)).suffix
    rw [hnil.1, List.suffix_nil] at hsuffix
    cases hsuffix
  have hstep {fuel' : Nat} (hle : fuel ≤ fuel') (more : List Char) :
      alternatives (fuel' + 1) s (cs ++ ')' :: more) = alternatives fuel' (s.add (p.inGroup name)) (last ++ ')' :: more) :=
    alternatives_group (ht.append more) ((hclosed fuel' hle).append more)
  have hlast : last <:+ cs := (List.suffix_cons _ _).trans ((hclosed fuel (Nat.le_refl _)).suffix.trans ht.suffix)
  apply Behind.of_step
  rcases h with hgo | ⟨rfl, hgo⟩
  · refine .inl fun fuel' hle => ⟨(hgo fuel' hle).suffix.trans hlast, fun more => ?_⟩
    rw [hstep hle, (hgo fuel' hle).append]
  · refine .inr ⟨rfl, fun fuel' hle => ⟨(hgo fuel' hle).comment.of_suffix hlast, fun more hline => ?_⟩⟩
    rw [hstep hle, (hgo fuel' hle).append more hline]

theorem Behind.next (htoken : token? s.marks cs = some (t, rest')) (hnext : s.next? t = some s')
    (h : Behind fuel s' rest' part rest) : Behind (fuel + 1) s cs part rest := by
  have ht : Continues (token? s.marks) cs t rest' := by
    refine (continues_token htoken).resolve_right ?_
    rintro ⟨-, ⟨rfl, -⟩ | ⟨name, inner, rfl⟩⟩
    · cases hnext
    · cases hnext
  apply Behind.of_step
  rcases h with hgo | ⟨rfl, hgo⟩
  · exact .inl fun fuel' hle => ht.then (hgo fuel' hle) fun hcs => alternatives_next hcs hnext
  · exact .inr ⟨rfl, fun fuel' hle => Swallows.then ht (hgo fuel' hle) fun hcs => alternatives_next hcs hnext⟩

theorem alternatives_behind (h : alternatives fuel s cs = some (part, rest)) : Behind fuel s cs part rest := by
  induction fuel generalizing s cs part rest with
  | zero => cases h
  | succ fuel ih =>
    rw [alternatives] at h
    split at h
    · cases h
    · next htoken =>
      cases h
      exact .stop htoken
    · next htoken =>
      split at h
      · next hinner => exact .group htoken (ih hinner) (ih h)
      · cases h
    · next htoken =>
      split at h
      · next hnext => exact .next htoken hnext (ih h)
      · cases h

theorem whole?_eq_some : whole? cs = some part ↔ alternatives (cs.length + 1) {} cs = some (part, []) := by
  unfold whole?
  split
  · next h => simp [h]
  · next hnone => exact ⟨nofun, fun h => absurd h (hnone part)⟩

theorem whole?_behind (h : whole? cs = some part) :
    (∀ fuel' > cs.length, Continues (alternatives fuel' {}) cs part []) ∨
      ∀ fuel' > cs.length, Swallows (alternatives fuel' {}) cs part :=
  (alternatives_behind (whole?_eq_some.mp h)).imp_right And.right

/-! ### Between anchors -/

/-- A part in a group that has no name, between anchors at both ends of the text. -/
def Part.anchored (p : Part) : Part :=
  ⟨.seq (.anchor .textStart) (.seq p.pattern (.anchor .textEnd)), p.depth + 2, p.names⟩

/-- The text that stands between the anchors. -/
def anchoredText (cs : List Char) : List Char := '^' :: '(' :: '?' :: ':' :: (cs ++ ')' :: ['$'])

theorem token_caret (cs : List Char) : token? {} ('^' :: cs) = some (.atom ⟨.anchor .textStart, 0, []⟩, cs) := rfl

theorem token_plainGroup (cs : List Char) : token? {} ('(' :: '?' :: ':' :: cs) = some (.group none {}, cs) := by
  have hname : nameStart? (':' :: cs) = none := by simp [nameStart?, formed?, Text.afterPrefix?]
  have hmarks : marks? false [] false {} (':' :: cs) = some ({}, ':' :: cs) := by simp [marks?]
  have htoken : token? {} ('(' :: '?' :: ':' :: cs) = marked? {} (':' :: cs) := rfl
  rw [htoken, marked?, hname]
  simp only [hmarks]

theorem token_dollar : token? {} ['$'] = some (.atom ⟨.anchor .textEnd, 0, []⟩, []) := rfl

theorem part_anchored (p : Part) : Progress.part ⟨{}, none, [some ⟨.anchor .textEnd, 0, []⟩, some (p.inGroup none),
    some ⟨.anchor .textStart, 0, []⟩]⟩ = p.anchored := by
  simp [Progress.part, Part.finish, Items.toPart, Part.inGroup, Part.inside, Part.anchored, sequence, sideBySide]

theorem whole?_anchored (h : ∀ fuel' > cs.length, Continues (alternatives fuel' {}) cs part []) :
    whole? (anchoredText cs) = some part.anchored := by
  have hfuel : (anchoredText cs).length + 1 = cs.length + 5 + 1 + 1 := by simp [anchoredText]
  have hgroup := (h (cs.length + 5) (by omega)).append ['$']
  rw [whole?_eq_some, hfuel, anchoredText, alternatives_next (token_caret _) rfl,
    alternatives_group (token_plainGroup _) hgroup, alternatives_next token_dollar rfl, ← part_anchored]
  rfl

theorem whole?_anchored_swallowed (h : ∀ fuel' > cs.length, Swallows (alternatives fuel' {}) cs part) :
    whole? (anchoredText cs) = none := by
  have hfuel : (anchoredText cs).length + 1 = cs.length + 5 + 1 + 1 := by simp [anchoredText]
  have hgroup := (h (cs.length + 5) (by omega)).append ['$'] (by decide)
  rw [whole?, hfuel, anchoredText, alternatives_next (token_caret _) rfl,
    alternatives_unclosed (token_plainGroup _) hgroup]

end Reader

/-! ### Whole texts -/

/-- A closing parenthesis behind the text is not read, since it belongs to a comment. -/
def endsInComment (source : String) : Bool := (Reader.whole? (source.toList ++ [')'])).isSome

/-- There is room for the group and the anchors around the pattern. -/
def fitsWhole (source : String) : Bool :=
  !endsInComment source && (Reader.whole? source.toList).all fun part => part.depth + 2 ≤ Reader.maxDepth

variable {source : String} {p : Pattern} {part : Reader.Part}

theorem ofText?_eq_some : ofText? source = some p ↔
    ∃ part, Reader.whole? source.toList = some part ∧ part.isSound = true ∧ part.pattern = p := by
  simp [ofText?, Option.filter_eq_some_iff, and_assoc]

open Reader in
/-- A text that can be read ends in a comment or it does not, and this decides how a closing parenthesis is read. -/
theorem endsInComment_cases (h : whole? source.toList = some part) :
    endsInComment source = false ∧ whole? (anchoredText source.toList) = some part.anchored ∨
      endsInComment source = true ∧ whole? (anchoredText source.toList) = none ∧ HasComment source.toList := by
  have hlength : (source.toList ++ [')']).length + 1 = source.toList.length + 1 + 1 := by simp
  rcases whole?_behind h with hgo | hgo
  · refine .inl ⟨?_, whole?_anchored hgo⟩
    have happend := (hgo (source.toList.length + 1 + 1) (by omega)).append []
    rw [endsInComment, whole?, hlength, happend]
    rfl
  · have hswallow := hgo (source.toList.length + 1 + 1) (by omega)
    refine .inr ⟨?_, whole?_anchored_swallowed hgo, hswallow.comment⟩
    rw [endsInComment, whole?, hlength, hswallow.append [] List.not_mem_nil]
    rfl

/-- What keeps a pattern from fitting between anchors can be seen in its text. -/
theorem comment_or_deep (h : ofText? source = some p) (hfits : fitsWhole source = false) :
    Reader.HasComment source.toList ∨
      ∃ part, Reader.whole? source.toList = some part ∧ Reader.maxDepth < part.depth + 2 := by
  obtain ⟨part, hpart, -, -⟩ := ofText?_eq_some.mp h
  rcases endsInComment_cases hpart with ⟨hcomment, -⟩ | ⟨-, -, hhas⟩
  · refine .inr ⟨part, hpart, ?_⟩
    simpa [fitsWhole, hcomment, hpart] using hfits
  · exact .inl hhas

theorem toList_anchored (source : String) : ("^(?:" ++ source ++ ")$").toList = Reader.anchoredText source.toList := by
  simp [Reader.anchoredText]

/-- A pattern that fits is read between anchors, and one that does not fit cannot be read there. -/
theorem ofText?_anchored (h : ofText? source = some p) : ofText? ("^(?:" ++ source ++ ")$") =
    if fitsWhole source then some (.seq (.anchor .textStart) (.seq p (.anchor .textEnd))) else none := by
  obtain ⟨part, hpart, hsound, rfl⟩ := ofText?_eq_some.mp h
  rw [ofText?, toList_anchored, fitsWhole, hpart]
  rcases endsInComment_cases hpart with ⟨hcomment, hanchored⟩ | ⟨hcomment, hanchored, -⟩
  · have hnames : decide part.names.Nodup = true := (Bool.and_eq_true_iff.mp hsound).2
    simp only [hanchored, hcomment, Reader.Part.anchored, Reader.Part.isSound, Option.filter_some, hnames,
      Bool.and_true, Bool.not_false, Bool.true_and, Option.all_some]
    split <;> rfl
  · rw [hanchored, hcomment]
    rfl

/-- Between anchors a pattern matches somewhere in a text if alone it matches the whole text. -/
theorem anchored_matchesIn {text : List Char} :
    (Pattern.seq (.anchor .textStart) (.seq p (.anchor .textEnd))).matchesIn text = true ↔ p.matchesWhole text = true := by
  rw [matchesIn_start, matchesWhole, List.any_eq_true]
  simp only [mem_ends_iff]
  constructor
  · rintro ⟨b, m, hp, rfl, hend⟩
    exact ⟨m, hp, hend⟩
  · rintro ⟨m, hp, hend⟩
    exact ⟨m, m, hp, rfl, hend⟩

end PromptForm.Pattern
