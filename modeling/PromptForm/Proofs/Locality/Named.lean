import PromptForm.Proofs.Locality.Scope
import PromptForm.Proofs.Pattern.Words

/-! # The template of a name

The shortest template that reads anything is a name between the marks of an output tag. If the name is an identifier
that the grammar does not take for something else, the template stands for what the scope says about the name
(`Surroundings.expand_named`): the text is taken as it is, also if it looks like a template. -/

namespace PromptForm.Template

/-- The template that stands for the meaning of a name. -/
def named (n : String) : String := "\x7b\x7b " ++ n ++ " \x7d\x7d"

/-- A name that templates read as a name: an identifier that no constant, keyword or the environment takes. -/
structure Readable (n : String) : Prop where
  identifier : Text.isIdentifier n = true
  constant : Reader.constant? n = none
  negation : n ≠ "not"
  environment : n ≠ "env"

namespace Reader

theorem wholeExpression_word {n : String} (hconstant : constant? n = none) (hnot : n ≠ "not") :
    wholeExpression [.word n] = some (.name n) := by
  have hunary : ∀ e : Reader Expr, unary e [.word n] = some (.name n, []) := fun e => by
    simp [unary, signed, primary, hconstant, postfixed, filtered]
  have hsums : ∀ e : Reader Expr, sums e [.word n] = some (.name n, []) := fun e => by
    simp [sums, joins, products, powers, chained, hunary, chain, oneOf]
  have hnegations : ∀ e : Reader Expr, negations e [.word n] = some (.name n, []) := fun e => by
    simp [negations, hnot, comparisons, hsums, compared, oneOf]
  simp [wholeExpression, expression, disjunctions, conjunctions, hnegations, joinedBy, keyword?, chosen]

end Reader
namespace Token

theorem isWordPart_of_start {c : Char} (h : isWordStart c = true) : isWordPart c = true := by
  simp only [isWordStart, isWordPart, Char.isAlphanum, Bool.or_eq_true] at h ⊢
  exact h.imp_left .inl

theorem toNat_of_isAlpha {c : Char} (h : c.isAlpha = true) : 'A'.toNat ≤ c.toNat := by
  rcases Bool.or_eq_true_iff.mp h with hupper | hlower
  · exact UInt32.le_iff_toNat_le.mp (of_decide_eq_true hupper).1
  · have hfirst : 'a'.toNat ≤ c.toNat :=
      UInt32.le_iff_toNat_le.mp (of_decide_eq_true (Bool.and_eq_true_iff.mp hlower).1)
    exact Nat.le_trans (by decide) hfirst

theorem not_isDigit_of_start {c : Char} (h : isWordStart c = true) : c.isDigit = false := by
  rcases Bool.or_eq_true_iff.mp h with halpha | hunderscore
  · refine Bool.eq_false_iff.mpr fun hdigit => ?_
    have hlast : c.toNat ≤ '9'.toNat := (Char.isDigit_iff_toNat.mp hdigit).2
    exact absurd (Nat.le_trans (toNat_of_isAlpha halpha) hlast) (by decide)
  · rw [eq_of_beq hunderscore]
    rfl

/-- No mark, sign or gap starts a word. -/
theorem start_ne {c d : Char} (h : isWordStart c = true) (hd : isWordStart d = false) : c ≠ d := by
  rintro rfl
  rw [h] at hd
  cases hd

theorem skipGaps_start {c : Char} {cs : List Char} (h : isWordStart c = true) : skipGaps (c :: cs) = c :: cs := by
  have hgap : isGap c = false := by
    simp [isGap, start_ne h (show isWordStart ' ' = false by decide), start_ne h (show isWordStart '\t' = false by decide),
      start_ne h (show isWordStart '\n' = false by decide), start_ne h (show isWordStart '\r' = false by decide),
      start_ne h (show isWordStart '\x0c' = false by decide)]
  simp [skipGaps, hgap]

theorem tagEnd?_start {c : Char} {cs : List Char} (h : isWordStart c = true) :
    tagEnd? ['\x7d', '\x7d'] (c :: cs) = none := by
  have hminus : c ≠ '-' := start_ne h (by decide)
  have hplus : c ≠ '+' := start_ne h (by decide)
  have hclose : '\x7d' ≠ c := (start_ne h (by decide)).symm
  simp [tagEnd?, hminus, hplus, Text.afterPrefix?, hclose]

theorem first?_start {c : Char} {cs : List Char} (h : isWordStart c = true) : first? (c :: cs) =
    some (.word (String.ofList ((c :: cs).takeWhile isWordPart)), (c :: cs).dropWhile isWordPart) := by
  have hpair : pairMarks.contains (c :: cs.take 1) = false := by
    simp [pairMarks, start_ne h (show isWordStart '/' = false by decide), start_ne h (show isWordStart '*' = false by decide),
      start_ne h (show isWordStart '=' = false by decide), start_ne h (show isWordStart '!' = false by decide),
      start_ne h (show isWordStart '>' = false by decide), start_ne h (show isWordStart '<' = false by decide)]
  have hsingle : singleMarks.contains c = false := by
    have hmarks : singleMarks.all (!isWordStart ·) = true := by decide +kernel
    rw [List.contains_eq_mem, decide_eq_false_iff_not]
    intro hmem
    have hstart : (!isWordStart c) = true := List.all_eq_true.mp hmarks c hmem
    rw [h] at hstart
    cases hstart
  have hquote : ¬(c = '"' ∨ c = '\'') := by
    rintro (rfl | rfl) <;> exact absurd h (by decide)
  simp only [first?, hpair, hsingle, hquote, not_isDigit_of_start h, h, if_true, if_false, Bool.false_eq_true]

end Token

/-- An identifier as its characters. -/
theorem characters_of_isIdentifier {n : String} (h : Text.isIdentifier n = true) : ∃ c cs, n.toList = c :: cs ∧
    Token.isWordStart c = true ∧ ∀ d ∈ c :: cs, Token.isWordPart d = true := by
  unfold Text.isIdentifier at h
  split at h
  · cases h
  · rename_i c cs hn
    obtain ⟨hfirst, hlater⟩ := Bool.and_eq_true_iff.mp h
    exact ⟨c, cs, hn, hfirst, List.forall_mem_cons.mpr ⟨Token.isWordPart_of_start hfirst, List.all_eq_true.mp hlater⟩⟩

theorem upTo?_named {n : String} (h : Text.isIdentifier n = true) (fuel : Nat) :
    Token.upTo? ['\x7d', '\x7d'] (fuel + 2) (' ' :: (n.toList ++ [' ', '\x7d', '\x7d'])) = some ([.word n], false, []) := by
  obtain ⟨c, cs, hn, hstart, hparts⟩ := characters_of_isIdentifier h
  have hgaps : Token.skipGaps (' ' :: (n.toList ++ [' ', '\x7d', '\x7d'])) = c :: (cs ++ [' ', '\x7d', '\x7d']) := by
    rw [hn]
    exact (Token.skipGaps_start hstart)
  have hfirst : Token.first? (c :: (cs ++ [' ', '\x7d', '\x7d'])) = some (.word n, [' ', '\x7d', '\x7d']) := by
    rw [Token.first?_start hstart, ← List.cons_append, List.takeWhile_append_of_pos hparts,
      List.dropWhile_append_of_pos hparts, ← hn]
    simp [List.takeWhile, List.dropWhile, Token.isWordPart]
  have hclose : Token.upTo? ['\x7d', '\x7d'] (fuel + 1) [' ', '\x7d', '\x7d'] = some ([], false, []) := rfl
  unfold Token.upTo?
  simp only [hgaps, Token.tagEnd?_start hstart, hfirst, hclose, Option.bind_eq_bind,
    Option.bind_some]

theorem ofText?_named {n : String} (h : Readable n) : ofText? (named n) = some ⟨[.output (.name n)]⟩ := by
  have hlist : (named n).toList = '\x7b' :: '\x7b' :: ' ' :: (n.toList ++ [' ', '\x7d', '\x7d']) := by
    simp [named]
  have hpieces : Piece.ofText? (named n) = some [.output [.word n]] := by
    have hlength : (named n).length = n.toList.length + 6 := by
      rw [← String.length_toList, hlist]
      simp
    have hrest : Piece.cut? (named n).length false [] = some [] := by
      rw [hlength]
      rfl
    have hmark : Piece.untilMark ((named n).toList) =
        ([], some (.output, ' ' :: (n.toList ++ [' ', '\x7d', '\x7d']))) := by
      rw [hlist]
      rfl
    have hsign : Piece.openingSign (' ' :: (n.toList ++ [' ', '\x7d', '\x7d'])) =
        (false, ' ' :: (n.toList ++ [' ', '\x7d', '\x7d'])) := rfl
    have htag : (' ' :: (n.toList ++ [' ', '\x7d', '\x7d'])).length + 1 = (n.toList.length + 3) + 2 := by simp
    simp only [Piece.ofText?, Piece.cut?, Piece.trimmedIf, Bool.false_eq_true, if_false, hmark, hsign]
    rw [htag, upTo?_named h.identifier]
    simp [Piece.textThen, hrest]
  simp [ofText?, hpieces, Reader.body, Reader.wholeExpression_word h.constant h.negation]

theorem isMarked_named (n : String) : isMarked (named n) = true := by
  simp [isMarked, named, Text.contains, Text.afterPrefix?]

/-- The template of a name prints the text that the name means. -/
theorem expand_named {n : String} (h : Readable n) {fields : Fields} {text : String}
    (hv : Fields.get? n fields = some (.string text)) : expand fields (named n) = .ok text := by
  have hmeaning : meaningOf fields n = some (.string text) := by simp [meaningOf, hv, Datum.ofValue]
  have hrender : render ⟨[.output (.name n)]⟩ (meaningOf fields) = .ok text := by
    simp [render, runBody, Statement.run, Expr.value, under, hmeaning, Datum.text, bind, Except.bind, pure, Except.pure]
  simp only [expand, isMarked_named, ofText?_named h, hrender, if_true]
  rfl

end Template

/-- In a scope too, unless the name is taken by the environment. -/
theorem Surroundings.expand_named {s : Surroundings} {scope : Scope} {n text : String} (h : Template.Readable n)
    (hv : scope.root? n = some (.string text)) : s.expand scope (Template.named n) = .ok text := by
  refine Template.expand_named h ?_
  rw [fieldsIn, Scope.get?_templateFields, if_neg h.environment.symm, hv]

end PromptForm
