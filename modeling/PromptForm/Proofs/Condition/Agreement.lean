import PromptForm.Proofs.Condition.Positions

/-! # Scanner and readers agree

For each reader of conditions there is a scan that agrees with it, by induction on what is left to read (`Mirrors`). Every
loop of the scanner takes a token in each round, and every operand inside another one a parenthesis, so that neither the
rounds of the scanner nor those of the readers run out. -/

namespace PromptForm.Condition
open Reader (skip)

variable {body text cs left : List Char} {n : Nat}

/-- The scan agrees with a reader of texts with fewer characters, blanks at their front not counted. -/
def Mirrors (body : List Char) (n : Nat) {α : Type} (x : Scan α) (reader : List Char → Step α) : Prop :=
  ∀ text cs, skip text = skip cs → (skip text).length < n → Gives body x text (reader cs)

theorem Mirrors.mono {body : List Char} {m n : Nat} {α : Type} {x : Scan α} {reader : List Char → Step α}
    (h : Mirrors body n x reader) (hle : m ≤ n) : Mirrors body m x reader :=
  fun text cs hskip hlt => h text cs hskip (Nat.lt_of_lt_of_le hlt hle)

/-- Behind a token there is less to read. -/
theorem length_skip_lt {token after : List Char} (htoken : token ≠ []) (hleft : left <:+ text)
    (h : skip left = token ++ after) (hlt : (skip text).length < n + 1) : (skip after).length < n := by
  have hshorter := length_skip_of_suffix hleft
  have hafter := length_skip_le after
  have hsome := List.length_pos_iff.mpr htoken
  rw [h, List.length_append] at hshorter
  omega

theorem Mirrors.map {α β : Type} {x : Scan α} {reader : List Char → Step α} (h : Mirrors body n x reader) (f : α → β) :
    Mirrors body n (f <$> x) fun cs => (reader cs).map fun (a, rest) => (f a, rest) := by
  intro text cs hskip hlt
  rw [map_eq_pure_bind]
  refine (h text cs hskip hlt).bind (fun e he => by simp only [he, Except.map]) fun a rest left hread hleft hsuffix => ?_
  simp only [hread, Except.map]
  exact .pure hleft

theorem Mirrors.chain {token : List Char} (htoken : token ≠ []) {item : Scan Formula} {read : List Char → Step Formula} :
    ∀ {n fuel rounds : Nat}, n ≤ fuel → n ≤ rounds → Mirrors body n item read →
      Mirrors body n (Scanner.chain body token item rounds) (Reader.chain token read fuel)
  | 0, _, _, _, _, _ => fun _ _ _ hlt => absurd hlt (Nat.not_lt_zero _)
  | n + 1, fuel + 1, rounds + 1, hfuel, hrounds, hitem => by
    intro text cs hskip hlt
    have hmore := Mirrors.chain htoken (Nat.le_of_succ_le_succ hfuel) (Nat.le_of_succ_le_succ hrounds)
      (hitem.mono (Nat.le_succ n))
    unfold Scanner.chain Reader.chain
    refine (hitem text cs hskip hlt).bind (fun e he => by simp only [he]) fun f rest left hread hleft hsuffix => ?_
    simp only [hread]
    refine Gives.eat hleft (fun after heat htext => ?_) fun heat => ?_
    · have hafter := length_skip_lt htoken hsuffix htext hlt
      simp only [heat, ↓reduceIte]
      refine (hmore after after rfl hafter).bind (fun e he => by simp only [he]) fun fs rest left hread hleft _ => ?_
      simp only [hread]
      exact .pure hleft
    · simp only [heat, Bool.false_eq_true, ↓reduceIte]
      exact .pure ((skip_skip left).trans hleft)

/-! ### Comparisons -/

theorem eat?_eq_some {token rest : List Char} : Reader.eat? token cs = some rest ↔ skip cs = token ++ rest :=
  Text.afterPrefix?_eq_some

theorem comparison?_long {dialect : Dialect} {token rest : List Char} {op : Comparison}
    (hop : (token, op) ∈ Scanner.longOperators dialect) (h : Reader.eat? token cs = some rest) :
    Reader.comparison? dialect cs = .ok (some op, rest) := by
  have hskip := eat?_eq_some.mp h
  unfold Reader.comparison?
  rw [hskip]
  cases dialect with
  | formula =>
    simp only [Scanner.longOperators, List.mem_cons, Prod.mk.injEq, List.not_mem_nil, or_false] at hop
    rcases hop with ⟨rfl, rfl⟩ | ⟨rfl, rfl⟩ | ⟨rfl, rfl⟩ <;> rfl
  | expression =>
    simp only [Scanner.longOperators, List.mem_cons, Prod.mk.injEq, List.not_mem_nil, or_false] at hop
    rcases hop with ⟨rfl, rfl⟩ | ⟨rfl, rfl⟩ | ⟨rfl, rfl⟩ | ⟨rfl, rfl⟩ <;> rfl

/-- What a reader makes of the front of a text where no operator of two characters stands. -/
def shortComparison (dialect : Dialect) : List Char → Step (Option Comparison)
  | '<' :: rest => .ok (some .lt, rest)
  | '>' :: rest => .ok (some .gt, rest)
  | '=' :: rest =>
    match dialect with
    | .formula => .ok (some .eq, rest)
    | .expression => .error ⟨'=' :: rest, .singleEquals⟩
  | rest => .ok (none, rest)

theorem comparison?_short {dialect : Dialect}
    (h : ∀ operator ∈ Scanner.longOperators dialect, Reader.eat? operator.1 cs = none) :
    Reader.comparison? dialect cs = shortComparison dialect (skip cs) := by
  have hnot : ∀ operator ∈ Scanner.longOperators dialect, ∀ rest, skip cs ≠ operator.1 ++ rest :=
    fun operator hoperator rest heq => by
      have hsome := eat?_eq_some.mpr heq
      rw [h operator hoperator] at hsome
      cases hsome
  unfold Reader.comparison? shortComparison
  generalize skip cs = front at hnot ⊢
  cases dialect with
  | formula =>
    simp only [Scanner.longOperators, List.forall_mem_cons] at hnot
    split <;> simp_all
  | expression =>
    simp only [Scanner.longOperators, List.forall_mem_cons] at hnot
    split <;> simp_all

theorem Gives.eatFirst {β : Type} {k : Option Comparison → Scan β} {result : Step β} :
    ∀ {operators : List (List Char × Comparison)} {text : List Char}, skip text = skip cs →
      (∀ token op rest, (token, op) ∈ operators → Reader.eat? token cs = some rest → Gives body (k (some op)) rest result) →
      (∀ text, skip text = skip cs → (∀ operator ∈ operators, Reader.eat? operator.1 cs = none) →
        Gives body (k none) text result) →
      Gives body (Scanner.eatFirst body operators >>= k) text result
  | [], text, hskip, _, hno => hno text hskip nofun
  | (token, op) :: operators, text, hskip, hyes, hno => by
    unfold Scanner.eatFirst
    rw [bind_assoc]
    refine Gives.eat hskip (fun left heat _ => ?_) fun heat => ?_
    · simp only [↓reduceIte, pure_bind]
      exact hyes token op left List.mem_cons_self heat
    · simp only [Bool.false_eq_true, ↓reduceIte]
      refine Gives.eatFirst ((skip_skip text).trans hskip)
        (fun token op rest hmem => hyes token op rest (List.mem_cons_of_mem _ hmem)) fun text hskip hnone => ?_
      exact hno text hskip (List.forall_mem_cons.mpr ⟨heat, hnone⟩)

theorem Gives.shortOperator {dialect : Dialect} :
    Gives body (Scanner.shortOperator body dialect) text (shortComparison dialect (skip text)) := by
  unfold Scanner.shortOperator
  refine Gives.peek ?_
  cases hfront : skip text with
  | nil => exact .pure rfl
  | cons c after =>
    by_cases hless : c = '<'
    · subst hless
      exact Gives.advance_one (.pure rfl)
    by_cases hgreater : c = '>'
    · subst hgreater
      exact Gives.advance_one (.pure rfl)
    by_cases hequal : c = '='
    · subst hequal
      cases dialect with
      | formula => exact Gives.advance_one (.pure rfl)
      | expression => exact .fail
    · have hshort : shortComparison dialect (c :: after) = .ok (none, c :: after) := by
        simp [shortComparison, hless, hgreater, hequal]
      rw [hshort]
      split
      · exact absurd (Option.some.inj ‹_›) hless
      · exact absurd (Option.some.inj ‹_›) hgreater
      · exact absurd (Option.some.inj ‹_›) hequal
      · exact absurd (Option.some.inj ‹_›) hequal
      · exact .pure rfl

theorem Gives.comparison {dialect : Dialect} (hskip : skip text = skip cs) :
    Gives body (Scanner.comparison body dialect) text (Reader.comparison? dialect cs) := by
  unfold Scanner.comparison
  refine Gives.eatFirst hskip (fun token op rest hop heat => ?_) fun text hskip hnone => ?_
  · rw [comparison?_long hop heat]
    exact .pure rfl
  · rw [comparison?_short hnone, ← hskip]
    exact .shortOperator

theorem Mirrors.comparand {dialect : Dialect} {operand : Scan Formula} {read : List Char → Step Formula}
    (h : Mirrors body n operand read) :
    Mirrors body n (Scanner.comparand body dialect operand) (Reader.comparand dialect read) := by
  intro text cs hskip hlt
  unfold Scanner.comparand Reader.comparand
  refine (h text cs hskip hlt).bind (fun e he => by simp only [he]) fun f rest left hread hleft hsuffix => ?_
  simp only [hread]
  refine (Gives.comparison hleft).bind (fun e he => by simp only [he]) fun op rest left hread hleft hsuffix' => ?_
  simp only [hread]
  cases op with
  | none => exact .pure hleft
  | some op =>
    have hlt' : (skip left).length < n := Nat.lt_of_le_of_lt (length_skip_of_suffix (hsuffix'.trans hsuffix)) hlt
    refine (h left rest hleft hlt').bind (fun e he => by simp only [he]) fun g rest left hread hleft _ => ?_
    simp only [hread]
    exact .pure hleft

/-! ### Negations and chains -/

theorem skip_of_negated? {rest : List Char} (h : Reader.negated? cs = some rest) : skip cs = '!' :: rest := by
  unfold Reader.negated? at h
  split at h
  · cases h
  · rename_i hfront
    cases h
    exact hfront
  · cases h

/-- A sign of negation is one that does not begin a comparison. -/
theorem isSome_negated? : (Reader.negated? cs).isSome =
    ((Text.afterPrefix? ['!'] (skip cs)).isSome && (Text.afterPrefix? ['!', '='] (skip cs)).isNone) := by
  unfold Reader.negated?
  split
  · rename_i hfront
    rw [hfront]
    rfl
  · rename_i after hnot hfront
    rw [hfront]
    cases after with
    | nil => rfl
    | cons d after =>
      have hd : '=' ≠ d := fun heq => hnot after (by rw [heq])
      simp [Text.afterPrefix?, hd]
  · rename_i hnot
    cases hfront : Text.afterPrefix? ['!'] (skip cs) with
    | none => rfl
    | some after => exact absurd (Text.eq_append_of_afterPrefix? hfront) (hnot after)

/-- A negation sign is seen where a reader sees it. -/
theorem Gives.isNegated {β : Type} {k : Bool → Scan β} {result : Step β} (hskip : skip text = skip cs)
    (hyes : ∀ rest, Reader.negated? cs = some rest → skip text = '!' :: rest → Gives body (k true) (skip text) result)
    (hno : Reader.negated? cs = none → Gives body (k false) (skip text) result) :
    Gives body (Scanner.isNegated body .expression >>= k) text result := by
  unfold Scanner.isNegated
  rw [bind_assoc]
  refine Gives.rest ?_
  rw [pure_bind, hskip, ← isSome_negated?, ← hskip]
  cases hnegated : Reader.negated? cs with
  | none => exact hno hnegated
  | some after => exact hyes after hnegated (hskip.trans (skip_of_negated? hnegated))

theorem Mirrors.factor {dialect : Dialect} {operand : Scan Formula} {read : List Char → Step Formula} :
    ∀ {n fuel rounds : Nat}, n ≤ fuel → n ≤ rounds → Mirrors body n operand read →
      Mirrors body n (Scanner.factor body dialect operand rounds) (Reader.factor dialect read fuel)
  | 0, _, _, _, _, _ => fun _ _ _ hlt => absurd hlt (Nat.not_lt_zero _)
  | n + 1, fuel + 1, rounds + 1, hfuel, hrounds, hoperand => by
    intro text cs hskip hlt
    cases dialect with
    | formula => exact hoperand.comparand text cs hskip hlt
    | expression =>
      have hmore : Mirrors body n (Scanner.factor body .expression operand rounds) (Reader.factor .expression read fuel) :=
        Mirrors.factor (Nat.le_of_succ_le_succ hfuel) (Nat.le_of_succ_le_succ hrounds) (hoperand.mono (Nat.le_succ n))
      unfold Scanner.factor Reader.factor
      refine Gives.isNegated hskip (fun after hnegated htext => ?_) fun hnegated => ?_
      · simp only [hnegated, ↓reduceIte]
        rw [htext]
        refine Gives.advance_one (c := '!') ?_
        have hafter := length_skip_lt (List.cons_ne_nil '!' []) List.suffix_rfl htext hlt
        refine (hmore after after rfl hafter).bind (fun e he => by simp only [he]) fun f rest left hread hleft _ => ?_
        simp only [hread]
        exact .pure hleft
      · simp only [hnegated, Bool.false_eq_true, ↓reduceIte]
        exact hoperand.comparand (skip text) cs ((skip_skip text).trans hskip) (by rwa [skip_skip])

theorem Mirrors.formula {dialect : Dialect} {operand : Scan Formula} {read : List Char → Step Formula}
    (hn : n ≤ Scanner.maxRounds body) (h : Mirrors body n operand read) :
    Mirrors body n (Scanner.formula body dialect operand) (Reader.formula dialect read) := by
  intro text cs hskip hlt
  -- The readers take as many rounds as there are characters, which is enough for what is behind the blanks.
  have hfuel : (skip text).length + 1 ≤ cs.length + 1 := hskip ▸ Nat.succ_le_succ (length_skip_le cs)
  have hrounds : (skip text).length + 1 ≤ Scanner.maxRounds body := Nat.le_trans hlt hn
  have hoperand : Mirrors body ((skip text).length + 1) operand read := h.mono hlt
  unfold Scanner.formula Reader.formula
  cases dialect with
  | formula => exact Mirrors.factor hfuel hrounds hoperand text cs hskip (Nat.lt_succ_self _)
  | expression =>
    have hfactor : Mirrors body ((skip text).length + 1) (Scanner.factor body .expression operand (Scanner.maxRounds body))
        (Reader.factor .expression read (cs.length + 1)) := .factor hfuel hrounds hoperand
    have hfactors := Mirrors.chain (List.cons_ne_nil '&' ['&']) hfuel hrounds hfactor
    have hterms := Mirrors.chain (List.cons_ne_nil '|' ['|']) hfuel hrounds (hfactors.map (Reader.joined .conjunction))
    exact hterms.map (Reader.joined .disjunction) text cs hskip (Nat.lt_succ_self _)

/-! ### Literals -/

theorem closing?_cons {quote c : Char} (hc : c ≠ '\\') (cs : List Char) (index : Nat) :
    Scanner.closing? quote (c :: cs) index =
      if c = quote then some ([], index + c.utf8Size)
      else (Scanner.closing? quote cs (index + c.utf8Size)).map fun (text, stop) => (c :: text, stop) := by
  simp [Scanner.closing?, hc]

/-- A backslash either ends the text or stands before the character that it escapes. -/
theorem ne_backslash {c : Char} {cs : List Char} (hlast : c = '\\' → cs = [] → False)
    (hescaped : ∀ d tail, c = '\\' → cs = d :: tail → False) : c ≠ '\\' := fun heq => by
  cases cs with
  | nil => exact hlast heq rfl
  | cons d tail => exact hescaped d tail heq rfl

/-- The scanner finds the closing quote that a reader finds, and counts the bytes up to behind it. -/
theorem closing?_textBody (quote : Char) (cs : List Char) :
    (Reader.textBody quote cs = none ∧ ∀ index, Scanner.closing? quote cs index = none) ∨
      ∃ content front rest, Reader.textBody quote cs = some (content, rest) ∧ cs = front ++ rest ∧
        ∀ index, Scanner.closing? quote cs index = some (content, index + Text.byteSize front) := by
  -- The text ends, or ends with a backslash; a character is escaped; the quote; any other character.
  induction cs using Reader.textBody.induct quote with
  | case1 => exact .inl ⟨rfl, fun _ => rfl⟩
  | case2 => exact .inl ⟨rfl, fun _ => rfl⟩
  | case3 c cs ih =>
    rcases ih with ⟨hread, hscan⟩ | ⟨content, front, rest, hread, rfl, hscan⟩
    · exact .inl ⟨by simp [Reader.textBody, hread], fun index => by simp [Scanner.closing?, hscan]⟩
    · refine .inr ⟨c :: content, '\\' :: c :: front, rest, by simp [Reader.textBody, hread], rfl, fun index => ?_⟩
      simp [Scanner.closing?, hscan, Nat.add_assoc]
  | case4 cs hlast hescaped =>
    have hslash := ne_backslash hlast hescaped
    refine .inr ⟨[], [quote], cs, ?_, rfl, fun index => ?_⟩
    · rw [textBody_cons hslash, if_pos rfl]
    · rw [closing?_cons hslash, if_pos rfl, Text.byteSize_cons, Text.byteSize_nil, Nat.add_zero]
  | case5 c cs hlast hescaped hquote ih =>
    have hslash := ne_backslash hlast hescaped
    rw [textBody_cons hslash, if_neg hquote]
    simp only [closing?_cons hslash, if_neg hquote]
    rcases ih with ⟨hread, hscan⟩ | ⟨content, front, rest, hread, rfl, hscan⟩
    · exact .inl ⟨by rw [hread]; rfl, fun index => by rw [hscan]; rfl⟩
    · refine .inr ⟨c :: content, c :: front, rest, by rw [hread]; rfl, rfl, fun index => ?_⟩
      rw [hscan, Text.byteSize_cons, Nat.add_assoc]
      rfl

theorem Gives.textLiteral {quote : Char} {tail : List Char} :
    Gives body (Scanner.textLiteral body quote) (quote :: tail) (Reader.textLiteral quote tail) := by
  unfold Scanner.textLiteral Reader.textLiteral
  refine Gives.advance_one (Gives.ahead ?_)
  rcases closing?_textBody quote tail with ⟨hread, hscan⟩ | ⟨content, front, rest, hread, rfl, hscan⟩
  · rw [hread, hscan]
    exact Gives.moveTo (.finish body) List.nil_suffix .fail
  · rw [hread, hscan, Nat.zero_add]
    exact Gives.advance (.pure rfl)

/-- What a reader makes of the numeral at the front of a text. -/
theorem numberLiteral_eq (cs : List Char) : ∃ rest, cs = Scanner.numeral cs ++ rest ∧
    Reader.numberLiteral cs =
      match Number.float? (String.ofList (Scanner.numeral cs)) with
      | none => .error ⟨cs, .invalidNumber (String.ofList (Scanner.numeral cs))⟩
      | some x =>
        if x.isFinite then .ok (.literal (.float x), rest)
        else .error ⟨rest, .invalidNumber (String.ofList (Scanner.numeral cs))⟩ := by
  by_cases hminus : ∃ tail, cs = '-' :: tail
  · obtain ⟨tail, rfl⟩ := hminus
    refine ⟨tail.dropWhile Reader.isNumberPart, ?_, rfl⟩
    rw [Scanner.numeral, List.cons_append, List.takeWhile_append_dropWhile]
  · have hnumeral : Scanner.numeral cs = cs.takeWhile Reader.isNumberPart := by
      unfold Scanner.numeral
      split
      · exact absurd ⟨_, rfl⟩ hminus
      · rfl
    refine ⟨cs.dropWhile Reader.isNumberPart, ?_, ?_⟩
    · rw [hnumeral, List.takeWhile_append_dropWhile]
    · unfold Reader.numberLiteral
      split
      rename_i sign digits hsign
      split at hsign
      · exact absurd ⟨_, rfl⟩ hminus
      · cases hsign
        rw [hnumeral]
        rfl

theorem Gives.numberLiteral : Gives body (Scanner.numberLiteral body) text (Reader.numberLiteral text) := by
  obtain ⟨rest, htext, hread⟩ := numberLiteral_eq text
  unfold Scanner.numberLiteral
  rw [hread]
  refine Gives.position fun pos hpos => Gives.ahead ?_
  have hfront : LeftAt body pos (Scanner.numeral text ++ rest) := htext ▸ hpos
  refine Gives.sliceTo hfront ?_
  dsimp only
  cases Number.float? (String.ofList (Scanner.numeral text)) with
  | none => exact .fail
  | some x =>
    have hsuffix : rest <:+ text := ⟨Scanner.numeral text, htext.symm⟩
    refine Gives.moveTo hfront.add hsuffix ?_
    dsimp only
    split
    · exact .pure rfl
    · exact .fail

/-! ### Words -/

theorem Mirrors.arguments {argument : Scan Formula} {read : List Char → Step Formula} :
    ∀ {n fuel rounds : Nat}, n ≤ fuel → n ≤ rounds → Mirrors body n argument read →
      Mirrors body n (Scanner.arguments body argument rounds) (Reader.arguments read fuel)
  | 0, _, _, _, _, _ => fun _ _ _ hlt => absurd hlt (Nat.not_lt_zero _)
  | n + 1, fuel + 1, rounds + 1, hfuel, hrounds, hargument => by
    intro text cs hskip hlt
    have hmore := Mirrors.arguments (Nat.le_of_succ_le_succ hfuel) (Nat.le_of_succ_le_succ hrounds)
      (hargument.mono (Nat.le_succ n))
    unfold Scanner.arguments Reader.arguments
    refine (hargument text cs hskip hlt).bind (fun e he => by simp only [he]) fun f rest left hread hleft hsuffix => ?_
    simp only [hread]
    refine Gives.eat hleft (fun after heat _ => ?_) fun heat => ?_
    · simp only [heat, ↓reduceIte]
      exact .pure rfl
    · simp only [heat, Bool.false_eq_true, ↓reduceIte]
      refine Gives.expect ((skip_skip left).trans hleft) (fun e he => by simp only [he]) fun after hcomma htext => ?_
      simp only [hcomma]
      rw [skip_skip] at htext
      have hafter := length_skip_lt (List.cons_ne_nil ',' []) hsuffix htext hlt
      refine (hmore after after rfl hafter).bind (fun e he => by simp only [he]) fun fs rest left hread hleft _ => ?_
      simp only [hread]
      exact .pure hleft

/-- The arguments of a call behind its parenthesis, as a reader of words takes them. -/
def argumentsOf (read : List Char → Step Formula) (inner : List Char) : Step (List Formula) :=
  match Reader.eat? [')'] inner with
  | some rest => .ok ([], rest)
  | none => Reader.arguments read (inner.length + 1) inner

theorem Mirrors.callArguments {argument : Scan Formula} {read : List Char → Step Formula}
    (hn : n ≤ Scanner.maxRounds body) (h : Mirrors body n argument read) {inner : List Char} (hlt : (skip inner).length < n) :
    Gives body (Scanner.callArguments body argument) inner (argumentsOf read inner) := by
  unfold Scanner.callArguments argumentsOf
  refine Gives.eat rfl (fun after heat _ => ?_) fun heat => ?_
  · simp only [heat, ↓reduceIte]
    exact .pure rfl
  · simp only [heat, Bool.false_eq_true, ↓reduceIte]
    have hfuel : (skip inner).length + 1 ≤ inner.length + 1 := Nat.succ_le_succ (length_skip_le inner)
    refine Mirrors.arguments hfuel (Nat.le_trans hlt hn) (h.mono hlt) (skip inner) inner (skip_skip inner) ?_
    rw [skip_skip]
    exact Nat.lt_succ_self _

/-- What is wrong with a call shows where its name began. -/
theorem Mirrors.call {argument : Scan Formula} {read : List Char → Step Formula} {name : String} {start : Nat}
    {inner : List Char} (hn : n ≤ Scanner.maxRounds body) (h : Mirrors body n argument read)
    (hlt : (skip inner).length < n) (hstart : LeftAt body start cs) (hinner : '(' :: inner <:+ cs) :
    Gives body (Scanner.call body argument name start) ('(' :: inner)
      (match argumentsOf read inner with
        | .error e => .error e
        | .ok (args, rest) =>
          match Reader.call name args with
          | .ok f => .ok (f, rest)
          | .error fault => .error ⟨cs, fault⟩) := by
  unfold Scanner.call
  have hopen : Reader.expect '(' ('(' :: inner) = .ok inner := rfl
  refine Gives.expect (Eq.refl (skip ('(' :: inner))) (fun e he => ?_) fun after hafter _ => ?_
  · cases hopen.symm.trans he
  · cases hopen.symm.trans hafter
    refine (h.callArguments hn hlt).bind (fun e he => by simp only [he]) fun args rest left hread hleft hsuffix => ?_
    simp only [hread]
    cases Reader.call name args with
    | ok f => exact .pure hleft
    | error fault => exact .throw hstart (hsuffix.trans ((List.suffix_cons '(' inner).trans hinner))

theorem Mirrors.word {dialect : Dialect} {argument : Scan Formula} {read : List Char → Step Formula}
    (hn : n ≤ Scanner.maxRounds body) (h : Mirrors body n argument read) (hlt : text.length ≤ n) :
    Gives body (Scanner.word body dialect argument) text (Reader.word dialect read text) := by
  unfold Scanner.word Reader.word
  have htext : text = text.takeWhile Reader.isNamePart ++ text.dropWhile Reader.isNamePart :=
    (List.takeWhile_append_dropWhile).symm
  have hsuffix : text.dropWhile Reader.isNamePart <:+ text := List.dropWhile_suffix _
  refine Gives.position fun start hstart => Gives.ahead ?_
  have hfront : LeftAt body start (text.takeWhile Reader.isNamePart ++ text.dropWhile Reader.isNamePart) := htext ▸ hstart
  refine Gives.sliceTo hfront (Gives.moveTo hfront.add hsuffix (Gives.peek ?_))
  dsimp only
  have hrest := (skip_suffix (text.dropWhile Reader.isNamePart)).trans hsuffix
  generalize skip (text.dropWhile Reader.isNamePart) = rest at hrest ⊢
  -- A parenthesis behind the word makes it a call. Any other word is a keyword or a name.
  by_cases hcall : ∃ inner, rest = '(' :: inner
  · obtain ⟨inner, rfl⟩ := hcall
    have hinner : (skip inner).length < n := by
      have hshort := hrest.length_le
      have hskipped := length_skip_le inner
      rw [List.length_cons] at hshort
      omega
    rw [List.head?_cons, if_pos rfl]
    exact h.call hn hinner hstart hrest
  · have hhead : rest.head? ≠ some '(' := fun hhead => hcall (List.head?_eq_some_iff.mp hhead)
    rw [if_neg hhead]
    cases Reader.keyword? dialect (String.ofList (text.takeWhile Reader.isNamePart)) with
    | some v =>
      dsimp only
      split
      · exact absurd ⟨_, rfl⟩ hcall
      · exact .pure rfl
    | none =>
      cases Reader.isWellFormedName (text.takeWhile Reader.isNamePart) with
      | false =>
        simp only [Bool.false_eq_true, ↓reduceIte]
        split
        · exact absurd ⟨_, rfl⟩ hcall
        · exact .fail
      | true =>
        simp only [↓reduceIte]
        split
        · exact absurd ⟨_, rfl⟩ hcall
        · exact .pure rfl

/-! ### Operands and whole conditions -/

theorem Mirrors.operand {dialect : Dialect} : ∀ nesting : Nat, nesting ≤ Scanner.maxRounds body →
    Mirrors body nesting (Scanner.operand body dialect nesting) (Reader.operand dialect nesting)
  | 0, _ => fun _ _ _ hlt => absurd hlt (Nat.not_lt_zero _)
  | nesting + 1, hnesting => by
    intro text cs hskip hlt
    have hinner : nesting ≤ Scanner.maxRounds body := Nat.le_of_succ_le hnesting
    have hformula : Mirrors body nesting (Scanner.formula body dialect (Scanner.operand body dialect nesting))
        (Reader.formula dialect (Reader.operand dialect nesting)) := (Mirrors.operand nesting hinner).formula hinner
    unfold Scanner.operand Reader.operand
    refine Gives.peek ?_
    rw [← hskip]
    -- The first character tells a formula in parentheses, a text, a number and a word apart.
    cases htext : skip text with
    | nil => exact .fail
    | cons c tail =>
      rw [htext, List.length_cons] at hlt
      simp only [List.head?_cons]
      split
      · rename_i hopen
        subst hopen
        refine Gives.advance_one (c := '(') ?_
        -- The formula inside is shorter, so that it needs fewer levels of nesting.
        have htail : (skip tail).length < nesting :=
          Nat.lt_of_le_of_lt (length_skip_le tail) (Nat.lt_of_succ_lt_succ hlt)
        refine (hformula tail tail rfl htail).bind (fun e he => by simp only [he]) fun f rest left hread hleft _ => ?_
        simp only [hread]
        refine Gives.expect hleft (fun e he => by simp only [he]) fun after hclose _ => ?_
        simp only [hclose]
        exact .pure rfl
      · split
        · exact .textLiteral
        · split
          · exact .numberLiteral
          · split
            · exact hformula.word hinner (Nat.le_of_lt_succ hlt)
            · exact .fail

theorem Gives.whole {dialect : Dialect} :
    Gives body (Scanner.whole body dialect) body ((Reader.whole dialect body).map (·, [])) := by
  have hoperand : Mirrors body (Scanner.maxRounds body) (Scanner.operand body dialect (Scanner.maxRounds body))
      (Reader.operand dialect (Scanner.maxRounds body)) := Mirrors.operand _ (Nat.le_refl _)
  have hlt : (skip body).length < Scanner.maxRounds body := Nat.lt_succ_of_le (length_skip_le body)
  have hformula : Gives body (Scanner.formula body dialect (Scanner.operand body dialect (Scanner.maxRounds body))) body
      (Reader.formula dialect (Reader.operand dialect (body.length + 1)) body) :=
    hoperand.formula (Nat.le_refl _) body body rfl hlt
  unfold Scanner.whole Reader.whole
  refine hformula.bind (fun e he => by rw [he]; rfl) fun f rest left hread hleft _ => ?_
  simp only [hread]
  refine Gives.peek ?_
  rw [← hleft]
  cases hend : skip left with
  | nil => exact .pure rfl
  | cons c tail => exact .fail

end PromptForm.Condition
