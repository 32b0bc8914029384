import PromptForm.Proofs.Locality.Names
import PromptForm.Proofs.Locality.Scope

/-! # Names in templates are words

A name that a template reads stands as a word in one of its tags (`Reader.body_gives`), so that it has letters,
digits and underscores only (`isWord_of_namesRead`). As a path such a name is its own root: what the scope says
about the path it says about the name (`rootOf_of_namesRead`). -/

namespace PromptForm.Template
variable {P : String → Prop}

/-! ### Statements -/

mutual
/-- All names in the expressions of a statement have a property. -/
def Statement.Named (P : String → Prop) : Statement → Prop
  | .text _ => True
  | .output e => e.Named P
  | .branch test yes no => test.Named P ∧ AllNamed P yes ∧ AllNamed P no
  | .loop _ source filter body otherwise =>
    source.Named P ∧ (∀ e, filter = some e → e.Named P) ∧ AllNamed P body ∧ AllNamed P otherwise
  | .assign _ e => e.Named P
  | .capture _ body => AllNamed P body
termination_by structural s => s
def AllNamed (P : String → Prop) : List Statement → Prop
  | [] => True
  | s :: ss => s.Named P ∧ AllNamed P ss
termination_by structural ss => ss
end

theorem mem_of_mem_outside {bound names : List String} {n : String} (h : n ∈ outside bound names) : n ∈ names :=
  (List.mem_filter.mp h).1

mutual
theorem named_of_reads : ∀ (s : Statement) {bound : List String} {n : String}, s.Named P → n ∈ s.reads bound → P n
  | .text _, _, _, _, hn => nomatch hn
  | .output e, _, n, h, hn => h n (mem_of_mem_outside hn)
  | .branch test yes no, _, n, h, hn => by
    simp only [Statement.reads, List.mem_append] at hn
    rcases hn with (hn | hn) | hn
    · exact h.1 n (mem_of_mem_outside hn)
    · exact named_of_bodyReads yes h.2.1 hn
    · exact named_of_bodyReads no h.2.2 hn
  | .loop target source filter body otherwise, bound, n, h, hn => by
    simp only [Statement.reads, List.mem_append] at hn
    rcases hn with ((hn | hn) | hn) | hn
    · exact h.1 n (mem_of_mem_outside hn)
    · cases filter with
      | none => cases hn
      | some e => exact h.2.1 e rfl n (mem_of_mem_outside hn)
    · exact named_of_bodyReads body h.2.2.1 hn
    · exact named_of_bodyReads otherwise h.2.2.2 hn
  | .assign _ e, _, n, h, hn => h n (mem_of_mem_outside hn)
  | .capture _ body, _, _, h, hn => named_of_bodyReads body h hn
termination_by structural s => s
theorem named_of_bodyReads : ∀ (ss : List Statement) {bound : List String} {n : String}, AllNamed P ss →
    n ∈ bodyReads bound ss → P n
  | [], _, _, _, hn => nomatch hn
  | s :: rest, _, n, h, hn => by
    rcases List.mem_append.mp hn with hn | hn
    · exact named_of_reads s h.1 hn
    · exact named_of_bodyReads rest h.2 hn
termination_by structural ss => ss
end

/-- All words in the tags among the pieces have a property. -/
def TagWords (P : String → Prop) (ps : List Piece) : Prop :=
  ∀ ts, (.output ts ∈ ps ∨ .block ts ∈ ps) → Words P ts

namespace TagWords
variable {p : Piece} {ps : List Piece} {ts : List Token}

theorem tail (h : TagWords P (p :: ps)) : TagWords P ps := fun ts hts =>
  h ts (hts.imp (List.mem_cons_of_mem p) (List.mem_cons_of_mem p))

theorem output (h : TagWords P (.output ts :: ps)) : Words P ts := h ts (.inl List.mem_cons_self)

theorem block (h : TagWords P (.block ts :: ps)) : Words P ts := h ts (.inr List.mem_cons_self)

end TagWords

namespace Reader
/-- A reader of bodies is sound for tags whose words have the property. -/
def BodyGives (P : String → Prop) (body : List String → BodyReader) : Prop :=
  ∀ ends ps, TagWords P ps → Yields (TagWords P) (AllNamed P) (body ends ps)

theorem closing?_words {word : String} {ps : List Piece} (hw : TagWords P ps) :
    ∀ rest, closing? word ps = some rest → TagWords P rest := by
  intro rest h
  unfold closing? at h
  split at h
  · split at h
    · cases h
      exact hw.tail
    · cases h
  · cases h

/-- What ends with a closing tag. -/
theorem closed {α : Type} {good : α → Prop} {word : String} {ps : List Piece} {a : α} (hw : TagWords P ps) (ha : good a) :
    Yields (TagWords P) good ((closing? word ps).map (a, ·)) := by
  cases hc : closing? word ps with
  | none => exact Yields.none
  | some rest => exact Yields.some ha (closing?_words hw _ hc)

section Body
variable {body : List String → BodyReader}

theorem branches_gives (hbody : BodyGives P body) : ∀ fuel ts ps, Words P ts → TagWords P ps →
    Yields (TagWords P) (Statement.Named P) (branches body fuel ts ps)
  | 0, _, _, _, _ => Yields.none
  | fuel + 1, ts, ps, hts, hps => by
    unfold branches
    cases htest : wholeExpression ts with
    | none => exact Yields.none
    | some test =>
      have htest := wholeExpression_named hts htest
      refine (hbody _ ps hps).bind fun yes rest hyes hrest => ?_
      dsimp only
      split
      · exact (branches_gives hbody fuel _ _ hrest.block.tail hrest.tail).bind fun no rest hno hrest =>
          Yields.some ⟨htest, hyes, hno, trivial⟩ hrest
      · split
        · rename_i hc
          exact Yields.some ⟨htest, hyes, trivial⟩ (closing?_words hrest _ hc)
        · refine Yields.behind (closing?_words hrest) fun rest hrest => ?_
          exact (hbody _ rest hrest).bind fun no rest hno hrest => closed hrest ⟨htest, hyes, hno⟩

theorem loopHead_named {ts : List Token} {t : Target} {source : Expr} {filter : Option Expr} (hts : Words P ts)
    (h : loopHead ts = some (t, source, filter)) : source.Named P ∧ ∀ e, filter = some e → e.Named P := by
  obtain ⟨⟨t', rest⟩, htarget, h⟩ := Option.bind_eq_some_iff.mp h
  obtain ⟨rest', hin, h⟩ := Option.bind_eq_some_iff.mp h
  obtain ⟨⟨source', rest''⟩, hsource, h⟩ := Option.bind_eq_some_iff.mp h
  have hrest := keyword?_words (target_gives _ ts hts _ _ htarget).2 _ hin
  obtain ⟨hnamed, hrest⟩ := disjunctions_gives (expression_gives _) _ hrest _ _ hsource
  dsimp only at h
  split at h
  · cases h
    exact ⟨hnamed, nofun⟩
  · obtain ⟨rest, hif, h⟩ := Option.bind_eq_some_iff.mp h
    obtain ⟨e, he, h⟩ := Option.bind_eq_some_iff.mp h
    cases h
    refine ⟨hnamed, ?_⟩
    rintro _ ⟨⟩
    exact wholeExpression_named (keyword?_words hrest _ hif) he

theorem divided_gives (hbody : BodyGives P body) {close : String} {ps : List Piece} (hps : TagWords P ps) {first second rest}
    (h : divided close body ps = some (first, second, rest)) : AllNamed P first ∧ AllNamed P second ∧ TagWords P rest := by
  obtain ⟨⟨first', rest'⟩, hread, h⟩ := Option.bind_eq_some_iff.mp h
  obtain ⟨hfirst, hrest⟩ := hbody _ ps hps _ _ hread
  dsimp only at h
  split at h
  · rename_i hc
    cases h
    exact ⟨hfirst, trivial, closing?_words hrest _ hc⟩
  · obtain ⟨rest, helse, h⟩ := Option.bind_eq_some_iff.mp h
    obtain ⟨⟨second', rest''⟩, hread, h⟩ := Option.bind_eq_some_iff.mp h
    obtain ⟨hsecond, hrest⟩ := hbody _ rest (closing?_words hrest _ helse) _ _ hread
    obtain ⟨after, hc, h⟩ := Option.map_eq_some_iff.mp h
    cases h
    exact ⟨hfirst, hsecond, closing?_words hrest _ hc⟩

theorem statement_gives (hbody : BodyGives P body) {ts : List Token} {ps : List Piece} (hts : Words P ts)
    (hps : TagWords P ps) : Yields (TagWords P) (Statement.Named P) (statement body ts ps) := by
  -- The words that begin a tag tell the statement: a condition, a loop, a text taken for a name, or an assignment.
  unfold statement
  split
  · exact branches_gives hbody _ _ _ hts.tail hps
  · rename_i ts
    cases hhead : loopHead ts with
    | none => exact Yields.none
    | some head =>
      obtain ⟨t, source, filter⟩ := head
      obtain ⟨hsource, hfilter⟩ := loopHead_named hts.tail hhead
      cases hdivided : divided "endfor" body ps with
      | none => exact fun a rest h => by simp at h
      | some parts =>
        obtain ⟨rounds, otherwise, rest⟩ := parts
        -- A loop names nothing but what its head and the bodies of its two parts name.
        obtain ⟨hrounds, hotherwise, hrest⟩ := divided_gives hbody hps hdivided
        refine fun a rest' h => ?_
        simp only [Option.bind_eq_bind, Option.bind_some, Option.some.injEq, Prod.mk.injEq] at h
        obtain ⟨rfl, rfl⟩ := h
        exact ⟨⟨hsource, hfilter, hrounds, hotherwise⟩, hrest⟩
  · rename_i n
    cases hn : targetName [n] with
    | none => exact Yields.none
    | some read =>
      exact (hbody _ ps hps).bind fun captured rest hcaptured hrest => closed hrest hcaptured
  · rename_i ts _
    cases ha : assigned ts with
    | none => exact Yields.none
    | some read =>
      obtain ⟨t, rest⟩ := read
      have hrest : Words P rest := (targetPart_gives (target_gives _) ts hts.tail _ _ ha).2
      cases hm : mark? "=" rest with
      | none => exact fun a rest h => by simp [hm] at h
      | some after =>
        cases he : wholeExpression after with
        | none => exact fun a rest h => by simp [hm, he] at h
        | some e =>
          refine fun a rest' h => ?_
          simp only [hm, he, Option.bind_eq_bind, Option.bind_some, Option.some.injEq, Prod.mk.injEq] at h
          obtain ⟨rfl, rfl⟩ := h
          exact ⟨wholeExpression_named (mark?_words hrest _ hm) he, hps⟩
  · exact Yields.none

end Body

theorem body_gives : ∀ fuel, BodyGives P (body fuel)
  | 0, _, _, _ => Yields.none
  | _ + 1, _, [], hps => Yields.some trivial hps
  | fuel + 1, ends, .text s :: ps, hps =>
    (body_gives fuel ends ps hps.tail).map fun ss rest hss hrest => ⟨⟨trivial, hss⟩, hrest⟩
  | fuel + 1, ends, .output ts :: ps, hps => by
    unfold body
    cases he : wholeExpression ts with
    | none => exact Yields.none
    | some e =>
      exact (body_gives fuel ends ps hps.tail).bind fun ss rest hss hrest =>
        Yields.some ⟨wholeExpression_named hps.output he, hss⟩ hrest
  | fuel + 1, ends, .block ts :: ps, hps => by
    unfold body
    split
    · exact Yields.some trivial hps
    · exact (statement_gives (body_gives fuel) hps.block hps.tail).bind fun s rest hs hrest =>
        (body_gives fuel ends rest hrest).bind fun ss rest hss hrest => Yields.some ⟨hs, hss⟩ hrest

end Reader

/-! ### Tokens -/

/-- Letters, digits and underscores. -/
def IsWord (w : String) : Prop := ∀ c ∈ w.toList, Token.isWordPart c = true

namespace Token

/-- A number is no word. -/
theorem word_not_number? {cs rest : List Char} {w : String} : number? cs ≠ some (.word w, rest) := by
  unfold number?
  dsimp only
  intro h
  split at h
  · cases h
  · split at h
    · split at h <;> cases h
    · obtain ⟨x, -, h⟩ := Option.map_eq_some_iff.mp h
      cases h

theorem isWord_of_first? {cs rest : List Char} {w : String} (h : first? cs = some (.word w, rest)) : IsWord w := by
  cases cs with
  | nil => cases h
  | cons c cs =>
    simp only [first?] at h
    split at h
    · cases h
    · split at h
      · cases h
      · split at h
        · obtain ⟨_, -, h⟩ := Option.map_eq_some_iff.mp h
          cases h
        · split at h
          · exact absurd h word_not_number?
          · split at h
            · cases h
              intro d hd
              rw [String.toList_ofList] at hd
              exact List.all_eq_true.mp List.all_takeWhile d hd
            · cases h

/-- The words up to the end mark of a tag. -/
theorem words_of_upTo? {close : List Char} : ∀ fuel {cs tokens} {trims : Bool} {rest},
    upTo? close fuel cs = some (tokens, trims, rest) → Words IsWord tokens
  | 0, _, _, _, _, h => nomatch h
  | fuel + 1, cs, tokens, trims, rest, h => by
    unfold upTo? at h
    dsimp only [Option.bind_eq_bind] at h
    split at h
    · cases h
      exact nofun
    · obtain ⟨⟨token, after⟩, hfirst, h⟩ := Option.bind_eq_some_iff.mp h
      obtain ⟨⟨tokens', trims', rest'⟩, hmore, h⟩ := Option.bind_eq_some_iff.mp h
      cases h
      intro w hw
      rcases List.mem_cons.mp hw with rfl | hw
      · exact isWord_of_first? hfirst
      · exact words_of_upTo? fuel hmore w hw

end Token

namespace Piece
variable {ps : List Piece}

theorem textThen_words {text : List Char} (h : TagWords P ps) : TagWords P (textThen text ps) := by
  unfold textThen
  split
  · exact h
  · intro ts hts
    exact h ts (by simpa using hts)

theorem output_words {ts : List Token} (hts : Words P ts) (h : TagWords P ps) : TagWords P (.output ts :: ps) := by
  intro ts' hts'
  simp only [List.mem_cons, reduceCtorEq, false_or, Piece.output.injEq] at hts'
  rcases hts' with (rfl | hts') | hts'
  · exact hts
  · exact h ts' (.inl hts')
  · exact h ts' (.inr hts')

theorem block_words {ts : List Token} (hts : Words P ts) (h : TagWords P ps) : TagWords P (.block ts :: ps) := by
  intro ts' hts'
  simp only [List.mem_cons, reduceCtorEq, false_or, Piece.block.injEq] at hts'
  rcases hts' with hts' | rfl | hts'
  · exact h ts' (.inl hts')
  · exact hts
  · exact h ts' (.inr hts')

/-- The words in the tags of a text that has been cut. -/
theorem cut?_words : ∀ fuel {trims : Bool} {cs : List Char} {ps : List Piece}, cut? fuel trims cs = some ps →
    TagWords IsWord ps
  | 0, _, _, _, h => nomatch h
  | fuel + 1, trims, cs, ps, h => by
    unfold cut? at h
    -- No mark is left, or the next one begins a comment, an output, a raw block or another block.
    split at h
    · cases h
      exact textThen_words (by simp [TagWords])
    · dsimp only at h
      split at h
      · obtain ⟨after, -, h⟩ := Option.bind_eq_some_iff.mp h
        obtain ⟨more, hmore, h⟩ := Option.bind_eq_some_iff.mp h
        cases h
        exact textThen_words (cut?_words fuel hmore)
      · obtain ⟨after, htag, h⟩ := Option.bind_eq_some_iff.mp h
        obtain ⟨more, hmore, h⟩ := Option.bind_eq_some_iff.mp h
        cases h
        exact textThen_words (output_words (Token.words_of_upTo? _ htag) (cut?_words fuel hmore))
      · split at h
        · obtain ⟨after, -, h⟩ := Option.bind_eq_some_iff.mp h
          obtain ⟨more, hmore, h⟩ := Option.bind_eq_some_iff.mp h
          cases h
          exact textThen_words (textThen_words (cut?_words fuel hmore))
        · obtain ⟨after, htag, h⟩ := Option.bind_eq_some_iff.mp h
          obtain ⟨more, hmore, h⟩ := Option.bind_eq_some_iff.mp h
          cases h
          exact textThen_words (block_words (Token.words_of_upTo? _ htag) (cut?_words fuel hmore))

end Piece

/-! ### Templates -/

/-- A template reads words. -/
theorem isWord_of_reads {source : String} {t : Template} (h : ofText? source = some t) {n : String} (hn : n ∈ t.reads) :
    IsWord n := by
  obtain ⟨pieces, hcut, h⟩ := Option.bind_eq_some_iff.mp h
  split at h
  · rename_i statements hbody
    cases h
    exact named_of_bodyReads statements (Reader.body_gives _ _ pieces (Piece.cut?_words _ hcut) _ _ hbody).1 hn
  · cases h

theorem isWord_of_namesRead {source n : String} (hn : n ∈ namesRead source) : IsWord n := by
  unfold namesRead namesIn at hn
  split at hn
  · rename_i names hnames
    split at hnames
    · split at hnames
      · cases hnames
      · rename_i t ht
        cases hnames
        exact isWord_of_reads ht hn
    · cases hnames
      cases hn
  · cases hn

end Template

/-- A name that a template reads is no longer path: it is its own root. -/
theorem Scope.rootOf_of_namesRead {source n : String} (hn : n ∈ Template.namesRead source) : rootOf n = n := by
  refine rootOf_of_dotless fun hdot => ?_
  exact absurd (Template.isWord_of_namesRead hn '.' hdot) (by decide)

end PromptForm
