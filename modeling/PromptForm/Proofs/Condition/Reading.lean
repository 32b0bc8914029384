import PromptForm.Proofs.Condition.Operands

/-! # Reading operators

The readers of disjunctions, conjunctions, factors, comparisons and operands are levels of one reader (`level`). A
formula is read by the level of its strength; what reads tightly also reads a formula in the place of a looser one,
because nothing follows that would join it there (`Reads.looser`). So each kind of formula is read at its own level
only, and by parentheses at every level. -/

namespace PromptForm
namespace Condition
open Reader

variable {dialect : Dialect} {n fuel k : Nat} {cs rest : List Char}

/-! ### Spelled tokens -/

theorem Spelled.split {tokens more : List Token} (h : Spelled dialect (tokens ++ more) cs rest) :
    ∃ mid, Spelled dialect tokens cs mid ∧ Spelled dialect more mid rest := by
  induction tokens generalizing cs with
  | nil => exact ⟨cs, .nil cs, h⟩
  | cons token tokens ih =>
    cases h with
    | cons blanks hblanks htoken htokens =>
      obtain ⟨mid, hhead, htail⟩ := ih htokens
      exact ⟨mid, .cons blanks hblanks htoken hhead, htail⟩

/-- A sign is spelled in one way, up to the blanks before it. -/
theorem Spelled.mark {m : Mark} {tokens : List Token} (h : Spelled dialect (.mark m :: tokens) cs rest) :
    ∃ blanks after, (∀ c ∈ blanks, Text.isBlank c = true) ∧ cs = blanks ++ (m.sign dialect ++ after) ∧
      Spelled dialect tokens after rest := by
  cases h with
  | @cons _ _ _ after _ blanks hblanks htoken htokens =>
    cases htoken
    exact ⟨blanks, after, hblanks, rfl, htokens⟩

/-- The first character of a sign. -/
def Mark.first (dialect : Dialect) (m : Mark) : Char := (m.sign dialect).headD ' '

theorem sign_eq (m : Mark) : m.sign dialect = m.first dialect :: (m.sign dialect).tail := by
  cases m with
  | comparison op => cases dialect <;> cases op <;> rfl
  | _ => rfl

theorem isBlank_first (m : Mark) : Text.isBlank (m.first dialect) = false := by
  cases m with
  | comparison op => cases dialect <;> cases op <;> decide
  | _ => cases dialect <;> decide

/-- Behind the blanks before a sign stands its first character. -/
theorem Spelled.skip_mark {m : Mark} {tokens : List Token} (h : Spelled dialect (.mark m :: tokens) cs rest) :
    ∃ after, skip cs = m.sign dialect ++ after ∧ Spelled dialect tokens after rest := by
  obtain ⟨blanks, after, hblanks, rfl, htokens⟩ := h.mark
  refine ⟨after, ?_, htokens⟩
  rw [skip_append hblanks, sign_eq, List.cons_append, skip_cons (isBlank_first m)]

theorem Spelled.follows {m : Mark} {tokens : List Token} {allowed : List Char}
    (h : Spelled dialect (.mark m :: tokens) cs rest) (hm : m.first dialect ∈ allowed) : Follows allowed cs := by
  intro c tail hc
  obtain ⟨after, hskip, -⟩ := h.skip_mark
  rw [hskip, sign_eq, List.cons_append] at hc
  cases hc
  exact hm

theorem Spelled.eat? {m : Mark} {tokens : List Token} (h : Spelled dialect (.mark m :: tokens) cs rest) :
    ∃ after, Reader.eat? (m.sign dialect) cs = some after ∧ Spelled dialect tokens after rest := by
  obtain ⟨after, hskip, htokens⟩ := h.skip_mark
  exact ⟨after, by rw [Reader.eat?, hskip, Text.afterPrefix?_append], htokens⟩

/-- Each token takes a character. -/
theorem Spelled.length_le {tokens : List Token} (h : Spelled dialect tokens cs rest) :
    tokens.length + rest.length ≤ cs.length := by
  induction h with
  | nil => simp
  | cons _ _ htoken _ ih =>
    obtain ⟨c, tail, rfl, -⟩ := htoken.exists_first
    simp only [List.length_cons, List.length_append]
    omega

/-! ### Levels -/

/-- A chain of formulas, given the reader of its items. -/
def connected (token : List Char) (join : List Formula → Formula) (item : List Char → Step Formula) (fuel : Nat)
    (cs : List Char) : Step Formula :=
  (chain token item fuel cs).map fun (fs, rest) => (joined join fs, rest)

/-- The reader of formulas that bind at least this tightly. The formula notation has no connectives between
    formulas. -/
def level (dialect : Dialect) (operand : List Char → Step Formula) (fuel : Nat) : Nat → List Char → Step Formula
  | 0 =>
    match dialect with
    | .formula => factor dialect operand fuel
    | .expression =>
      connected ['|', '|'] .disjunction
        (connected ['&', '&'] .conjunction (factor dialect operand fuel) fuel) fuel
  | 1 =>
    match dialect with
    | .formula => factor dialect operand fuel
    | .expression => connected ['&', '&'] .conjunction (factor dialect operand fuel) fuel
  | 2 => factor dialect operand fuel
  | 3 => comparand dialect operand
  | _ => operand

theorem formula_eq_level (operand : List Char → Step Formula) (cs : List Char) :
    Reader.formula dialect operand cs = level dialect operand (cs.length + 1) 0 cs := by
  cases dialect <;> rfl

/-! ### What no formula begins with -/

theorem operand_error {c : Char} {tail : List Char} (hskip : skip cs = c :: tail)
    (hc : c ∈ [')', ',', '=', '>', '!']) : ∃ e, operand dialect n cs = .error e := by
  cases n with
  | zero => exact ⟨_, rfl⟩
  | succ n =>
    simp only [List.mem_cons, List.not_mem_nil, or_false] at hc
    unfold operand
    rw [hskip]
    rcases hc with rfl | rfl | rfl | rfl | rfl <;> exact ⟨_, rfl⟩

theorem comparand_error {operand : List Char → Step Formula} {e : Failure} (h : operand cs = .error e) :
    comparand dialect operand cs = .error e := by
  simp [comparand, h]

theorem factor_error {operand : List Char → Step Formula} {e : Failure} (h : operand cs = .error e)
    (hnegated : negated? cs = none) : ∃ e', factor dialect operand fuel cs = .error e' := by
  cases fuel with
  | zero => exact ⟨_, rfl⟩
  | succ fuel =>
    refine ⟨e, ?_⟩
    cases dialect <;> simp [factor, hnegated, comparand_error h]

theorem connected_error {token : List Char} {join : List Formula → Formula} {item : List Char → Step Formula}
    (h : ∃ e, item cs = .error e) : ∃ e, connected token join item fuel cs = .error e := by
  obtain ⟨e, he⟩ := h
  cases fuel with
  | zero => exact ⟨_, rfl⟩
  | succ fuel => exact ⟨e, by simp [connected, chain, he, Except.map]⟩

/-- No formula begins with a closing parenthesis, a comma or an equals sign. -/
theorem level_error {c : Char} {tail : List Char} (hskip : skip cs = c :: tail) (hc : c ∈ [')', ',', '=', '>']) :
    ∃ e, level dialect (operand dialect n) fuel k cs = .error e := by
  obtain ⟨e, he⟩ : ∃ e, operand dialect n cs = .error e := operand_error hskip (List.mem_append_left ['!'] hc)
  have hnegated : negated? cs = none := by
    unfold negated?
    rw [hskip]
    simp only [List.mem_cons, List.not_mem_nil, or_false] at hc
    rcases hc with rfl | rfl | rfl | rfl <;> rfl
  have hfactor : ∃ e, factor dialect (operand dialect n) fuel cs = .error e := factor_error he hnegated
  match k with
  | 0 =>
    cases dialect with
    | formula => exact hfactor
    | expression => exact connected_error (connected_error hfactor)
  | 1 =>
    cases dialect with
    | formula => exact hfactor
    | expression => exact connected_error hfactor
  | 2 => exact hfactor
  | 3 => exact ⟨e, comparand_error he⟩
  | k + 4 => exact ⟨e, he⟩

variable {f : Formula}

theorem Reads.skip_begins {c : Char} {tail : List Char}
    (h : Reads (level dialect (operand dialect n) fuel k) f cs rest) (hskip : skip cs = c :: tail) :
    c ∉ [')', ',', '=', '>'] := by
  intro hc
  obtain ⟨left, hread, -⟩ := h
  obtain ⟨e, he⟩ : ∃ e, level dialect (operand dialect n) fuel k cs = .error e := level_error hskip hc
  simp [he] at hread

theorem Reads.begins {c : Char} {tail : List Char}
    (h : Reads (level dialect (operand dialect n) fuel k) f (c :: tail) rest) : c ∉ [')', ',', '=', '>'] := by
  intro hc
  have hsolid : ([')', ',', '=', '>'].all fun c => !Text.isBlank c) = true := by decide
  have hblank : Text.isBlank c = false := by simpa using List.all_eq_true.mp hsolid c hc
  exact h.skip_begins (skip_cons hblank) hc

/-! ### Reading at a looser level -/

theorem comparison?_none (h : Follows (followers 3) rest) : comparison? dialect rest = .ok (none, skip rest) := by
  unfold comparison?
  cases hskip : skip rest with
  | nil => cases dialect <;> rfl
  | cons c tail =>
    have hc : c ∈ followers 3 := h c tail hskip
    simp only [followers, joiners, List.append_nil, List.cons_append, List.nil_append, List.mem_cons,
      List.not_mem_nil, or_false] at hc
    rcases hc with rfl | rfl | rfl | rfl <;> cases dialect <;> rfl

theorem negated?_none_of_comparand (h : comparand dialect (operand dialect n) cs = .ok (f, rest)) :
    negated? cs = none := by
  unfold negated?
  split
  · rfl
  · next tail _ hskip =>
    obtain ⟨e, he⟩ : ∃ e, operand dialect n cs = .error e := operand_error hskip (by decide)
    simp [comparand_error he] at h
  · rfl

theorem connected_one {token : Char} {tokens left : List Char} {join : List Formula → Formula}
    {item : List Char → Step Formula} (hitem : item cs = .ok (f, left)) (hnone : eat? (token :: tokens) left = none) :
    connected (token :: tokens) join item (fuel + 1) cs = .ok (f, left) := by
  simp [connected, chain, hitem, hnone, joined, Except.map]

theorem Follows.congr {allowed left : List Char} (h : Follows allowed rest) (hskip : skip left = skip rest) :
    Follows allowed left := fun c tail hc => h c tail (hskip ▸ hc)

/-- A formula in the place of a looser one: nothing follows that joins it. -/
theorem Reads.looser (hfuel : 0 < fuel) (hfollows : Follows (followers k) rest)
    (h : Reads (level dialect (operand dialect n) fuel (k + 1)) f cs rest) :
    Reads (level dialect (operand dialect n) fuel k) f cs rest := by
  obtain ⟨left, hread, hskip⟩ := h
  have hleft := hfollows.congr hskip
  obtain ⟨fuel, rfl⟩ := Nat.exists_eq_add_one_of_ne_zero (Nat.ne_of_gt hfuel)
  -- Disjunctions, conjunctions, negations and comparisons, each with nothing to join to what was read.
  match k with
  | 0 =>
    refine ⟨left, ?_, hskip⟩
    cases dialect with
    | formula => exact hread
    | expression => exact connected_one hread (eat?_eq_none hleft (by decide))
  | 1 =>
    refine ⟨left, ?_, hskip⟩
    cases dialect with
    | formula => exact hread
    | expression => exact connected_one hread (eat?_eq_none hleft (by decide))
  | 2 =>
    refine ⟨left, ?_, hskip⟩
    have hnegated : negated? cs = none := negated?_none_of_comparand hread
    have hcomparand : comparand dialect (operand dialect n) cs = .ok (f, left) := hread
    cases dialect <;> simp [level, factor, hnegated, hcomparand]
  | 3 =>
    refine ⟨skip left, ?_, by rw [skip_skip, hskip]⟩
    have hoperand : operand dialect n cs = .ok (f, left) := hread
    simp [level, comparand, hoperand, comparison?_none hleft]
  | k + 4 => exact ⟨left, hread, hskip⟩

theorem Reads.loosest {j : Nat} (hfuel : 0 < fuel) (hle : k ≤ j) (hfollows : Follows (followers k) rest)
    (h : Reads (level dialect (operand dialect n) fuel j) f cs rest) :
    Reads (level dialect (operand dialect n) fuel k) f cs rest := by
  induction hle with
  | refl => exact h
  | step hle ih => exact ih (h.looser hfuel (hfollows.mono (followers_mono hle)))

/-! ### Tokens read back -/

/-- Tokens that a level of the reader takes for a formula, wherever they stand and however they are spelled. -/
def ReadAt (dialect : Dialect) (k : Nat) (f : Formula) (tokens : List Token) : Prop :=
  ∀ ⦃n fuel : Nat⦄ ⦃cs rest : List Char⦄, tokens.length < n → tokens.length < fuel →
    Spelled dialect tokens cs rest → Follows (followers k) rest →
    Reads (level dialect (operand dialect n) fuel k) f cs rest

variable {g : Formula} {tokens more : List Token}

theorem ReadAt.looser {j : Nat} (h : ReadAt dialect j f tokens) (hle : k ≤ j) : ReadAt dialect k f tokens :=
  fun _ _ _ _ hn hfuel hspelled hfollows => (h hn hfuel hspelled (hfollows.mono (followers_mono hle))).loosest
    (Nat.zero_lt_of_lt hfuel) hle hfollows

/-- Fuel for every character is enough. -/
theorem ReadAt.formula (h : ReadAt dialect 0 f tokens) (hn : tokens.length < n)
    (hspelled : Spelled dialect tokens cs rest) (hfollows : Follows (followers 0) rest) :
    Reads (Reader.formula dialect (operand dialect n)) f cs rest := by
  have hlength := hspelled.length_le
  obtain ⟨left, hread, hskip⟩ := h hn (show tokens.length < cs.length + 1 by omega) hspelled hfollows
  exact ⟨left, by rw [formula_eq_level, hread], hskip⟩

theorem expect_of_eat? {token : Char} (h : eat? [token] cs = some rest) : expect token cs = .ok rest := by
  simp [expect, h]

/-- A formula in parentheses is read at every level. -/
theorem ReadAt.parenthesized (h : ReadAt dialect 0 f tokens) (hk : k ≤ 4) :
    ReadAt dialect k f (.mark .opening :: (tokens ++ [.mark .closing])) := by
  refine ReadAt.looser (j := 4) (fun n fuel cs rest hn _ hspelled _ => ?_) hk
  simp only [List.length_cons, List.length_append, List.length_nil] at hn
  obtain ⟨n, rfl⟩ := Nat.exists_eq_add_one_of_ne_zero (Nat.ne_zero_of_lt hn)
  obtain ⟨inner, hopening, hinner⟩ := hspelled.skip_mark
  obtain ⟨mid, hformula, hclosing⟩ := hinner.split
  obtain ⟨left, hread, hskip⟩ := h.formula (n := n) (by omega) hformula
    (hclosing.follows (show ')' ∈ followers 0 by decide))
  obtain ⟨after, heat, hend⟩ := hclosing.eat?
  cases hend
  have hclose : expect ')' left = .ok rest := expect_of_eat? ((eat?_congr hskip).trans heat)
  have hhead : skip cs = '(' :: inner := hopening
  exact ⟨rest, by simp [level, operand, hhead, hread, hclose], rfl⟩

theorem ReadAt.enclosed (h : ReadAt dialect (f.strength dialect) f tokens) (hk : k ≤ 4) :
    ReadAt dialect k f (f.enclosed dialect k tokens) := by
  unfold Formula.enclosed
  split
  · next hle => exact h.looser hle
  · exact ReadAt.parenthesized (h.looser (Nat.zero_le _)) hk

theorem ReadAt.negation (h : ReadAt .expression 2 f tokens) :
    ReadAt .expression 2 (.negation f) (.mark .negation :: tokens) := by
  intro n fuel cs rest hn hfuel hspelled hfollows
  simp only [List.length_cons] at hn hfuel
  obtain ⟨fuel, rfl⟩ := Nat.exists_eq_add_one_of_ne_zero (Nat.ne_zero_of_lt hfuel)
  obtain ⟨inner, hhead, hinner⟩ := hspelled.skip_mark
  obtain ⟨left, hread, hskip⟩ := h (n := n) (by omega) (show tokens.length < fuel by omega) hinner hfollows
  have hnegated : negated? cs = some inner := by
    have hhead : skip cs = '!' :: inner := hhead
    unfold negated?
    rw [hhead]
    split
    · next tail heq =>
      -- An equals sign behind the negation sign would begin the operand.
      cases heq
      exact absurd (show '=' ∈ _ by decide) (Reads.begins ⟨left, hread, hskip⟩)
    · next heq => cases heq; rfl
    · next hne => exact absurd rfl (hne _)
  have hread : factor .expression (operand .expression n) fuel inner = .ok (f, left) := hread
  exact ⟨left, by simp [level, factor, hnegated, hread], hskip⟩

/-- A comparison sign is read as a whole: what begins an operand does not lengthen it. -/
theorem comparison?_sign {op : Comparison} {after : List Char}
    (hskip : skip cs = comparisonSign dialect op ++ after)
    (hafter : ∀ c tail, after = c :: tail → c ∉ ['=', '>']) : comparison? dialect cs = .ok (some op, after) := by
  unfold comparison?
  rw [hskip]
  cases after with
  | nil => cases dialect <;> cases op <;> rfl
  | cons c tail =>
    have hc := hafter c tail rfl
    simp only [List.mem_cons, List.not_mem_nil, or_false, not_or] at hc
    cases dialect <;> cases op <;> simp [comparisonSign, hc]

theorem ReadAt.compare {op : Comparison} (hf : ReadAt dialect 4 f tokens) (hg : ReadAt dialect 4 g more) :
    ReadAt dialect 3 (.compare op f g) (tokens ++ .mark (.comparison op) :: more) := by
  intro n fuel cs rest hn hfuel hspelled hfollows
  simp only [List.length_append, List.length_cons] at hn hfuel
  obtain ⟨mid, hleft, hmid⟩ := hspelled.split
  obtain ⟨after, hsign, hright⟩ := hmid.skip_mark
  obtain ⟨leftF, hreadF, hskipF⟩ := hf (n := n) (by omega) (show tokens.length < fuel by omega) hleft
    (hmid.follows (by cases dialect <;> cases op <;> decide))
  obtain ⟨leftG, hreadG, hskipG⟩ := hg (n := n) (by omega) (show more.length < fuel by omega) hright
    (hfollows.mono (followers_mono (by decide)))
  have hcomparison : comparison? dialect leftF = .ok (some op, after) := by
    refine comparison?_sign (hskipF.trans hsign) fun c tail hc hmem => ?_
    subst hc
    exact Reads.begins ⟨leftG, hreadG, hskipG⟩ ((by decide : ['=', '>'] ⊆ [')', ',', '=', '>']) hmem)
  have hreadF : operand dialect n cs = .ok (f, leftF) := hreadF
  have hreadG : operand dialect n after = .ok (g, leftG) := hreadG
  exact ⟨leftG, by simp [level, comparand, hreadF, hcomparison, hreadG], hskipG⟩

/-! ### Chains and calls -/

/-- Each of the formulas is read with the parentheses that a place asks for. -/
def AllReadAt (dialect : Dialect) (k : Nat) (fs : List Formula) : Prop :=
  ∀ f ∈ fs, ReadAt dialect k f (f.enclosed dialect k (f.tokens dialect))

variable {fs : List Formula}

theorem separated_cons_cons (dialect : Dialect) (separator : Mark) (k : Nat) (f g : Formula) (fs : List Formula) :
    Formula.separated dialect separator k (f :: g :: fs) = f.enclosed dialect k (f.tokens dialect) ++
      .mark separator :: Formula.separated dialect separator k (g :: fs) := rfl

theorem separated_singleton (dialect : Dialect) (separator : Mark) (k : Nat) (f : Formula) :
    Formula.separated dialect separator k [f] = f.enclosed dialect k (f.tokens dialect) := by
  simp [Formula.separated]

/-- A chain of formulas is read item by item, if its sign follows an item but not the chain. -/
theorem chain_separated {separator : Mark} (hin : separator.first dialect ∈ followers (k + 1))
    (hout : separator.first dialect ∉ followers k) (f : Formula) (fs : List Formula)
    (h : AllReadAt dialect (k + 1) (f :: fs)) {itemFuel fuel : Nat} {cs rest : List Char}
    (hn : (Formula.separated dialect separator (k + 1) (f :: fs)).length < n)
    (hitem : (Formula.separated dialect separator (k + 1) (f :: fs)).length < itemFuel)
    (hfuel : (Formula.separated dialect separator (k + 1) (f :: fs)).length < fuel)
    (hspelled : Spelled dialect (Formula.separated dialect separator (k + 1) (f :: fs)) cs rest)
    (hfollows : Follows (followers k) rest) :
    Reads (chain (separator.sign dialect) (level dialect (operand dialect n) itemFuel (k + 1)) fuel) (f :: fs)
      cs rest := by
  induction fs generalizing f fuel cs with
  | nil =>
    obtain ⟨fuel, rfl⟩ := Nat.exists_eq_add_one_of_ne_zero (Nat.ne_zero_of_lt hfuel)
    rw [separated_singleton] at hn hitem hspelled
    obtain ⟨left, hread, hskip⟩ := h f List.mem_cons_self hn hitem hspelled
      (hfollows.mono (followers_mono (Nat.le_succ k)))
    -- What follows the chain does not begin with its sign.
    have hnone : Reader.eat? (separator.sign dialect) left = none := by
      rw [sign_eq]
      exact eat?_eq_none (hfollows.congr hskip) hout
    exact ⟨left, by simp [chain, hread, hnone], hskip⟩
  | cons g fs ih =>
    obtain ⟨fuel, rfl⟩ := Nat.exists_eq_add_one_of_ne_zero (Nat.ne_zero_of_lt hfuel)
    rw [separated_cons_cons] at hn hitem hfuel hspelled
    simp only [List.length_append, List.length_cons] at hn hitem hfuel
    obtain ⟨mid, hfirst, hmid⟩ := hspelled.split
    obtain ⟨left, hread, hskip⟩ := h f List.mem_cons_self (n := n) (by omega)
      (show _ < itemFuel by omega) hfirst (hmid.follows hin)
    obtain ⟨after, heat, hafter⟩ := hmid.eat?
    obtain ⟨left', hread', hskip'⟩ := ih g (fun x hx => h x (List.mem_cons_of_mem f hx)) (by omega) (by omega)
      (show _ < fuel by omega) hafter
    rw [← eat?_congr hskip] at heat
    exact ⟨left', by simp [chain, hread, heat, hread'], hskip'⟩

/-- A chain of several formulas is the connective of them. -/
theorem ReadAt.connected {separator : Mark} {join : List Formula → Formula}
    (hlevel : ∀ operand fuel, level dialect operand fuel k =
      Condition.connected (separator.sign dialect) join (level dialect operand fuel (k + 1)) fuel)
    (hin : separator.first dialect ∈ followers (k + 1)) (hout : separator.first dialect ∉ followers k)
    (h : AllReadAt dialect (k + 1) (f :: g :: fs)) :
    ReadAt dialect k (join (f :: g :: fs)) (Formula.separated dialect separator (k + 1) (f :: g :: fs)) := by
  intro n fuel cs rest hn hfuel hspelled hfollows
  obtain ⟨left, hread, hskip⟩ := chain_separated hin hout f (g :: fs) h hn hfuel hfuel hspelled hfollows
  exact ⟨left, by rw [hlevel, Condition.connected, hread]; rfl, hskip⟩

theorem arguments_separated (f : Formula) (fs : List Formula) (h : AllReadAt dialect 0 (f :: fs))
    (hn : (Formula.separated dialect .comma 0 (f :: fs)).length < n)
    (hfuel : (Formula.separated dialect .comma 0 (f :: fs)).length < fuel)
    (hspelled : Spelled dialect (Formula.separated dialect .comma 0 (f :: fs) ++ [.mark .closing]) cs rest) :
    arguments (Reader.formula dialect (operand dialect n)) fuel cs = .ok (f :: fs, rest) := by
  induction fs generalizing f fuel cs with
  | nil =>
    obtain ⟨fuel, rfl⟩ := Nat.exists_eq_add_one_of_ne_zero (Nat.ne_zero_of_lt hfuel)
    rw [separated_singleton] at hn hspelled
    obtain ⟨mid, hfirst, hclosing⟩ := hspelled.split
    obtain ⟨left, hread, hskip⟩ := ReadAt.formula (h f List.mem_cons_self) hn hfirst
      (hclosing.follows (show ')' ∈ followers 0 by decide))
    obtain ⟨after, heat, hend⟩ := hclosing.eat?
    cases hend
    have heat : Reader.eat? [')'] left = some rest := (eat?_congr hskip).trans heat
    simp [arguments, hread, heat]
  | cons g fs ih =>
    obtain ⟨fuel, rfl⟩ := Nat.exists_eq_add_one_of_ne_zero (Nat.ne_zero_of_lt hfuel)
    rw [separated_cons_cons] at hn hfuel hspelled
    simp only [List.length_append, List.length_cons] at hn hfuel
    rw [List.append_assoc, List.cons_append] at hspelled
    obtain ⟨mid, hfirst, hmid⟩ := hspelled.split
    obtain ⟨left, hread, hskip⟩ := ReadAt.formula (h f List.mem_cons_self) (n := n) (by omega) hfirst
      (hmid.follows (show ',' ∈ followers 0 by decide))
    -- A comma follows, so the arguments are not closed yet.
    have hopen : Reader.eat? [')'] left = none := by
      have hfollows : Follows [','] mid := hmid.follows (show ',' ∈ [','] by decide)
      exact eat?_eq_none (hfollows.congr hskip) (by decide)
    obtain ⟨after, heat, hafter⟩ := hmid.eat?
    have hcomma : expect ',' left = .ok after := expect_of_eat? ((eat?_congr hskip).trans heat)
    have hrest := ih g (fun x hx => h x (List.mem_cons_of_mem f hx)) (by omega) (show _ < fuel by omega) hafter
    simp [arguments, hread, hopen, hcomma, hrest]

/-- Where an argument is read there is no closing parenthesis. -/
theorem eat?_closing_of_arguments
    (h : arguments (Reader.formula dialect (operand dialect n)) fuel cs = .ok (fs, rest)) :
    Reader.eat? [')'] cs = none := by
  unfold Reader.eat?
  cases hskip : skip cs with
  | nil => rfl
  | cons c tail =>
    have hc : ')' ≠ c := by
      rintro rfl
      obtain ⟨e, he⟩ : ∃ e, level dialect (operand dialect n) (cs.length + 1) 0 cs = .error e :=
        level_error hskip (by decide)
      rw [← formula_eq_level] at he
      cases fuel <;> simp [arguments, he] at h
    simp [Text.afterPrefix?, hc]

/-- A call is read, in any letter case of its function, if the function takes the arguments. -/
theorem ReadAt.called {operation : Operation}
    (hcall : ∀ cs : List Char, cs.map Char.toUpper = operation.word.toList →
      call (String.ofList cs) (g :: fs) = .ok f) (h : AllReadAt dialect 0 (g :: fs)) :
    ReadAt dialect 4 f (Formula.called operation (Formula.separated dialect .comma 0 (g :: fs))) := by
  intro n fuel cs rest hn _ hspelled _
  simp only [Formula.called, List.length_cons, List.length_append, List.length_nil] at hn
  obtain ⟨n, rfl⟩ := Nat.exists_eq_add_one_of_ne_zero (Nat.ne_zero_of_lt hn)
  cases hspelled with
  | @cons _ _ spelling cs _ blanks hblanks htoken htokens =>
  cases htoken with
  | call _ _ hupper =>
  obtain ⟨inner, hopening, hinner⟩ := htokens.skip_mark
  have hword : IsWord spelling := isWord_operation hupper
  have hbreaks : Breaks cs := (htokens.follows (show '(' ∈ ['('] by decide)).breaks (by decide +kernel)
  obtain ⟨htake, hdrop⟩ := word_of_breaks hword hbreaks
  have hopening : skip cs = '(' :: inner := hopening
  have hlength := hinner.length_le
  simp only [List.length_append, List.length_cons, List.length_nil] at hlength
  -- The text is at least as long as its tokens are many, so there is fuel for each of them.
  have hargs : arguments (Reader.formula dialect (operand dialect n)) (inner.length + 1) inner = .ok (g :: fs, rest) :=
    arguments_separated g fs h (by omega) (by omega) hinner
  have hnone : Reader.eat? [')'] inner = none := eat?_closing_of_arguments hargs
  refine ⟨rest, ?_, rfl⟩
  show operand dialect (n + 1) (blanks ++ (spelling ++ cs)) = _
  rw [operand_congr (skip_append hblanks), operand_word hword]
  simp [word, htake, hdrop, hopening, hnone, hargs, hcall spelling hupper]

theorem ReadAt.called_one (operation : Operation)
    (hcall : ∀ cs : List Char, cs.map Char.toUpper = operation.word.toList → call (String.ofList cs) [g] = .ok f)
    (h : ReadAt dialect 0 g (g.enclosed dialect 0 (g.tokens dialect))) :
    ReadAt dialect 4 f (Formula.called operation (g.enclosed dialect 0 (g.tokens dialect))) := by
  rw [← separated_singleton dialect .comma 0 g]
  exact ReadAt.called hcall (List.forall_mem_singleton.mpr h)

/-! ### Formulas read back -/

/-- A formula of one token is read if its spellings are, blanks before it or not. -/
theorem ReadAt.single {token : Token} (hread : ∀ {n : Nat} {spelling rest : List Char},
      Spelling dialect token spelling → Follows (followers 4) rest →
        Reads (operand dialect (n + 1)) f (spelling ++ rest) rest) : ReadAt dialect 4 f [token] := by
  intro n fuel cs rest hn _ hspelled hfollows
  obtain ⟨n, rfl⟩ := Nat.exists_eq_add_one_of_ne_zero (Nat.ne_zero_of_lt hn)
  cases hspelled with
  | cons _ hblanks htoken htokens =>
  cases htokens
  obtain ⟨left, hoperand, hskip⟩ := hread (n := n) htoken hfollows
  exact ⟨left, (operand_congr (skip_append hblanks)).trans hoperand, hskip⟩

theorem ReadAt.literal (v : Value) : ReadAt dialect 4 (.literal v) [.literal v] :=
  .single reads_literal

theorem ReadAt.name {path : String} (h : IsName dialect path) : ReadAt dialect 4 (.name path) [.name path] :=
  .single fun htoken hfollows => by
    cases htoken
    exact reads_name h hfollows

theorem call_eq {operation : Operation} {cs : List Char} (h : cs.map Char.toUpper = operation.word.toList)
    (g : Formula) (fs : List Formula) : call (String.ofList cs) (g :: fs) =
      match operation, fs with
      | .conjunction, fs => .ok (.conjunction (g :: fs))
      | .disjunction, fs => .ok (.disjunction (g :: fs))
      | .negation, [] => .ok (.negation g)
      | .blank, [] => .ok (.blank g)
      | operation, _ => .error (.notOneArgument operation.word) := by
  have hupper : Text.asciiUpper (String.ofList cs) = operation.word := by simp [Text.asciiUpper, h]
  simp only [call, hupper]
  cases operation <;> cases fs <;> rfl

/-- The arguments of a connective, one or more, are read infix or as those of a call. -/
theorem ReadAt.connective (k : Nat) (operation : Operation) (separator : Mark) {join : List Formula → Formula}
    {items : List Formula} (hlevel : ∀ operand fuel, level .expression operand fuel k =
      Condition.connected (separator.sign .expression) join (level .expression operand fuel (k + 1)) fuel)
    (hin : separator.first .expression ∈ followers (k + 1)) (hout : separator.first .expression ∉ followers k)
    (hcall : ∀ cs : List Char, cs.map Char.toUpper = operation.word.toList → ∀ g fs,
      call (String.ofList cs) (g :: fs) = .ok (join (g :: fs)))
    (hne : items ≠ []) (h : ∀ k ≤ 4, AllReadAt dialect k items) (hk : k + 1 ≤ 4) :
    ReadAt dialect (if Formula.isInfix dialect items then k else 4) (join items)
      (if Formula.isInfix dialect items then Formula.separated dialect separator (k + 1) items
        else Formula.called operation (Formula.separated dialect .comma 0 items)) := by
  obtain ⟨g, fs, rfl⟩ := List.exists_cons_of_ne_nil hne
  split
  · next hinfix =>
    cases dialect with
    | formula => simp [Formula.isInfix] at hinfix
    | expression =>
    cases fs with
    | nil => simp [Formula.isInfix] at hinfix
    | cons f fs => exact ReadAt.connected hlevel hin hout (h (k + 1) hk)
  · exact ReadAt.called (fun cs hcs => hcall cs hcs g fs) (h 0 (Nat.zero_le _))

mutual
/-- The tokens of a formula are read at the level of its strength. -/
theorem readAt_tokens : ∀ f : Formula, f.Filled → (∀ path ∈ f.names, IsName dialect path) →
    ReadAt dialect (f.strength dialect) f (f.tokens dialect)
  | .literal v, _, _ => ReadAt.literal v
  | .name path, _, hnames => ReadAt.name (hnames path List.mem_cons_self)
  | .negation f, hfilled, hnames => by
    have ih := readAt_tokens f hfilled hnames
    cases dialect with
    | expression => exact ReadAt.negation (ih.enclosed (by decide))
    | formula => exact ReadAt.called_one .negation (fun cs hcs => call_eq hcs f []) (ih.enclosed (Nat.zero_le 4))
  | .blank f, hfilled, hnames =>
    ReadAt.called_one .blank (fun cs hcs => call_eq hcs f [])
      ((readAt_tokens f hfilled hnames).enclosed (Nat.zero_le 4))
  | .conjunction items, hfilled, hnames =>
    ReadAt.connective 1 .conjunction .conjunction (fun _ _ => rfl) (by decide) (by decide)
      (fun cs hcs g fs => call_eq hcs g fs) hfilled.1 (allReadAt_tokens items hfilled.2 hnames) (by decide)
  | .disjunction items, hfilled, hnames =>
    ReadAt.connective 0 .disjunction .disjunction (fun _ _ => rfl) (by decide) (by decide)
      (fun cs hcs g fs => call_eq hcs g fs) hfilled.1 (allReadAt_tokens items hfilled.2 hnames) (by decide)
  | .compare op f g, hfilled, hnames => by
    have hf := readAt_tokens f hfilled.1 fun path hpath => hnames path (List.mem_append_left _ hpath)
    have hg := readAt_tokens g hfilled.2 fun path hpath => hnames path (List.mem_append_right _ hpath)
    exact ReadAt.compare (hf.enclosed (by decide)) (hg.enclosed (by decide))
termination_by structural f => f
theorem allReadAt_tokens : ∀ fs : List Formula, Formula.AllFilled fs →
    (∀ path ∈ Formula.namesOf fs, IsName dialect path) → ∀ k ≤ 4, AllReadAt dialect k fs
  | [], _, _, _, _ => fun _ hf => absurd hf List.not_mem_nil
  | f :: fs, hfilled, hnames, k, hk => by
    have hf := readAt_tokens f hfilled.1 fun path hpath => hnames path (List.mem_append_left _ hpath)
    have hfs := allReadAt_tokens fs hfilled.2 (fun path hpath => hnames path (List.mem_append_right _ hpath)) k hk
    exact List.forall_mem_cons.mpr ⟨hf.enclosed hk, hfs⟩
termination_by structural fs => fs
end

end Condition
end PromptForm
