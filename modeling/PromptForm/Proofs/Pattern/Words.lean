import PromptForm.Proofs.Pattern.Meaning
import PromptForm.Component.Props

/-! # Patterns of words

A pattern without anchors takes the same words wherever it stands (`Pattern.TakesWords`). Between anchors at both ends
of the text it therefore matches just the texts that are such words (`takes_end`). In this way the patterns of whole
words match a first character and later ones of their ranges (`wholeWord_matches_iff`); for the names of
inputs these are the identifiers. -/

namespace PromptForm

/-- A letter or underscore, then letters, digits and underscores, all of them ASCII. -/
def Text.isIdentifier (name : String) : Bool :=
  match name.toList with
  | [] => false
  | c :: cs => (c.isAlpha || c == '_') && cs.all fun c => c.isAlphanum || c == '_'

/-- The place behind a word in the same text. -/
def Place.Behind (a : Place) (word : List Char) (b : Place) : Prop :=
  a.rest = word ++ b.rest ∧ b.before = word.getLast?.or a.before

namespace Place.Behind
variable {a b c : Place} {u v w : List Char}

theorem nil : a.Behind [] b ↔ a = b := by
  obtain ⟨before, rest⟩ := a
  obtain ⟨before', rest'⟩ := b
  simp [Behind, eq_comm, and_comm]

theorem append (hab : a.Behind u b) (hbc : b.Behind v c) : a.Behind (u ++ v) c := by
  refine ⟨by rw [hab.1, hbc.1, List.append_assoc], ?_⟩
  rw [hbc.2, hab.2, List.getLast?_append, Option.or_assoc]

theorem split (h : a.Behind (u ++ v) c) : ∃ b, a.Behind u b ∧ b.Behind v c := by
  refine ⟨⟨u.getLast?.or a.before, v ++ c.rest⟩, ⟨by rw [h.1, List.append_assoc], rfl⟩, rfl, ?_⟩
  rw [h.2, List.getLast?_append, Option.or_assoc]

end Place.Behind

namespace Pattern

/-! ### Words -/

/-- What the pattern takes from a place are the words of a language. -/
def TakesWords (p : Pattern) (language : List Char → Prop) : Prop :=
  ∀ a b, Takes p a b ↔ ∃ w, a.Behind w b ∧ language w

namespace TakesWords
variable {p q : Pattern} {L M : List Char → Prop}

theorem congr (h : TakesWords p L) (hlanguage : ∀ w, L w ↔ M w) : TakesWords p M := fun a b => by
  simp only [h a b, hlanguage]

theorem one (set : CharSet) : TakesWords (.one set) fun w => ∃ c, w = [c] ∧ set.has c = true := fun a b => by
  constructor
  · rintro ⟨c, hrest, hbefore, hc⟩
    exact ⟨[c], ⟨hrest, hbefore⟩, c, rfl, hc⟩
  · rintro ⟨_, ⟨hrest, hbefore⟩, c, rfl, hc⟩
    exact ⟨c, hrest, hbefore, hc⟩

theorem seq (hp : TakesWords p L) (hq : TakesWords q M) :
    TakesWords (.seq p q) fun w => ∃ u v, w = u ++ v ∧ L u ∧ M v := fun a b => by
  constructor
  · rintro ⟨m, hfirst, hsecond⟩
    obtain ⟨u, hu, hL⟩ := (hp a m).mp hfirst
    obtain ⟨v, hv, hM⟩ := (hq m b).mp hsecond
    exact ⟨u ++ v, hu.append hv, u, v, rfl, hL, hM⟩
  · rintro ⟨_, hw, u, v, rfl, hL, hM⟩
    obtain ⟨m, hu, hv⟩ := hw.split
    exact ⟨m, (hp a m).mpr ⟨u, hu, hL⟩, (hq m b).mpr ⟨v, hv, hM⟩⟩

/-- Any number of repetitions. -/
theorem repeated (hp : TakesWords p L) :
    TakesWords (.repeated p 0 none) fun w => ∃ ws : List (List Char), w = ws.flatten ∧ ∀ u ∈ ws, L u := fun a b => by
  constructor
  · rintro ⟨n, -, -, hsteps⟩
    induction n generalizing a with
    | zero => exact ⟨[], Place.Behind.nil.mpr hsteps, [], rfl, nofun⟩
    | succ n ih =>
      obtain ⟨m, hfirst, hrest⟩ := hsteps
      obtain ⟨u, hu, hL⟩ := (hp a m).mp hfirst
      obtain ⟨w, hw, ws, rfl, hws⟩ := ih m hrest
      exact ⟨_, hu.append hw, u :: ws, rfl, List.forall_mem_cons.mpr ⟨hL, hws⟩⟩
  · rintro ⟨_, hw, ws, rfl, hws⟩
    refine ⟨ws.length, Nat.zero_le _, nofun, ?_⟩
    induction ws generalizing a with
    | nil => exact Place.Behind.nil.mp hw
    | cons u ws ih =>
      obtain ⟨hu, hws⟩ := List.forall_mem_cons.mp hws
      obtain ⟨m, hfirst, hrest⟩ := Place.Behind.split hw
      exact ⟨m, (hp a m).mpr ⟨u, hfirst, hu⟩, ih m hws hrest⟩

/-- Any number of characters of a set. -/
theorem characters (set : CharSet) : TakesWords (.repeated (.one set) 0 none) fun w => ∀ c ∈ w, set.has c = true := by
  refine (repeated (one set)).congr fun w => ?_
  constructor
  · rintro ⟨ws, rfl, hws⟩ c hc
    obtain ⟨u, hu, hcu⟩ := List.mem_flatten.mp hc
    obtain ⟨d, rfl, hd⟩ := hws u hu
    rwa [List.mem_singleton.mp hcu]
  · intro h
    refine ⟨w.map ([·]), by simp [← List.flatMap_def], fun u hu => ?_⟩
    obtain ⟨c, hc, rfl⟩ := List.mem_map.mp hu
    exact ⟨c, rfl, h c hc⟩

end TakesWords

/-! ### Whole texts -/

/-- Only the first place of a text has nothing before it. -/
theorem mem_places {p : Place} : ∀ {cs : List Char} {before : Option Char}, p ∈ places before cs →
    p = ⟨before, cs⟩ ∨ p.before.isSome = true
  | [], _, h => Or.inl (List.mem_singleton.mp h)
  | c :: cs, before, h => by
    rcases List.mem_cons.mp h with rfl | h
    · exact Or.inl rfl
    · rcases mem_places h with rfl | h
      · exact Or.inr rfl
      · exact Or.inr h

theorem mem_places_first (before : Option Char) (cs : List Char) : ⟨before, cs⟩ ∈ places before cs := by
  cases cs <;> exact List.mem_cons_self

theorem matchesIn_iff (p : Pattern) (text : List Char) :
    p.matchesIn text = true ↔ ∃ a ∈ places none text, ∃ b, Takes p a b := by
  simp only [matchesIn, List.any_eq_true, Bool.not_eq_true', List.isEmpty_eq_false_iff_exists_mem, mem_ends_iff]

theorem takes_seq_assoc {p q r : Pattern} {a b : Place} :
    Takes (.seq p (.seq q r)) a b ↔ Takes (.seq (.seq p q) r) a b := by
  constructor
  · rintro ⟨m, hp, n, hq, hr⟩
    exact ⟨n, ⟨m, hp, hq⟩, hr⟩
  · rintro ⟨n, ⟨m, hp, hq⟩, hr⟩
    exact ⟨m, hp, n, hq, hr⟩

/-- A pattern that begins where the text begins. -/
theorem matchesIn_start {p : Pattern} {text : List Char} :
    (Pattern.seq (.anchor .textStart) p).matchesIn text = true ↔ ∃ b, Takes p ⟨none, text⟩ b := by
  rw [matchesIn_iff]
  constructor
  · rintro ⟨a, ha, b, _, ⟨rfl, hstart⟩, hp⟩
    rcases mem_places ha with rfl | hbefore
    · exact ⟨b, hp⟩
    · rw [Option.isSome_iff_ne_none] at hbefore
      exact absurd (Option.isNone_iff_eq_none.mp hstart) hbefore
  · rintro ⟨b, hp⟩
    exact ⟨_, mem_places_first none text, b, _, ⟨rfl, rfl⟩, hp⟩

/-- A pattern that goes on to the end of the text takes it if it is one of its words. -/
theorem takes_end {p : Pattern} {L : List Char → Prop} (h : TakesWords p L) {text : List Char} :
    (∃ b, Takes (.seq p (.anchor .textEnd)) ⟨none, text⟩ b) ↔ L text := by
  constructor
  · rintro ⟨b, m, hp, rfl, hend⟩
    obtain ⟨w, ⟨hrest, -⟩, hL⟩ := (h _ _).mp hp
    have hnil : m.rest = [] := by simpa [Anchor.holds] using hend
    have htext : text = w := by simpa [hnil] using hrest
    rwa [htext]
  · intro hL
    have hbehind : Place.Behind ⟨none, text⟩ text ⟨text.getLast?, []⟩ := ⟨by simp, by simp⟩
    exact ⟨_, _, (h _ _).mpr ⟨text, hbehind, hL⟩, rfl, rfl⟩

/-! ### Sets of ranges -/

theorem has_foldl_ranges (c : Char) : ∀ (ranges : List (Char × Char)) (s : CharSet),
    (ranges.foldl (fun s (low, high) => CharSet.union s (.range low high)) s).has c =
      (s.has c || ranges.any fun r => r.1.toNat ≤ c.toNat && c.toNat ≤ r.2.toNat)
  | [], s => by simp
  | r :: ranges, s => by
    rw [List.foldl_cons, has_foldl_ranges c ranges]
    simp only [CharSet.has, List.any_cons, Bool.or_assoc]

theorem has_rangesOf (c : Char) (ranges : List (Char × Char)) :
    (rangesOf ranges).has c = ranges.any fun r => r.1.toNat ≤ c.toNat && c.toNat ≤ r.2.toNat := by
  simp [rangesOf, has_foldl_ranges, CharSet.has]

theorem has_single {c d : Char} : (CharSet.single d).has c = true ↔ c = d := by
  simp only [CharSet.single, CharSet.has, Bool.and_eq_true, decide_eq_true_eq]
  constructor
  · rintro ⟨hlow, hhigh⟩
    exact Char.toNat_inj.mp (Nat.le_antisymm hhigh hlow)
  · rintro rfl
    exact ⟨Nat.le_refl _, Nat.le_refl _⟩

/-! ### Whole words -/

/-- A first character of one set, then any number of characters of another. -/
theorem takesWords_word (first later : CharSet) :
    TakesWords (.seq (.one first) (.repeated (.one later) 0 none)) fun w =>
      ∃ c cs, w = c :: cs ∧ first.has c = true ∧ ∀ x ∈ cs, later.has x = true := by
  refine ((TakesWords.one first).seq (TakesWords.characters later)).congr fun w => ?_
  constructor
  · rintro ⟨_, cs, rfl, ⟨c, rfl, hc⟩, hcs⟩
    exact ⟨c, cs, rfl, hc, hcs⟩
  · rintro ⟨c, cs, rfl, hc, hcs⟩
    exact ⟨[c], cs, rfl, ⟨c, rfl, hc⟩, hcs⟩

/-- A whole word is matched from its first to its last character. -/
theorem wholeWord_matches_iff {first later : List (Char × Char)} {text : List Char} :
    (wholeWord first later).matchesIn text = true ↔
      ∃ c cs, text = c :: cs ∧ (rangesOf first).has c = true ∧ ∀ x ∈ cs, (rangesOf later).has x = true := by
  rw [wholeWord, matchesIn_start, ← takes_end (takesWords_word (rangesOf first) (rangesOf later))]
  simp only [takes_seq_assoc]

end Pattern
end PromptForm
