import PromptForm.Text.Case
import PromptForm.Text.Category
import PromptForm.Text.Blank

/-!
# Patterns

Regular patterns over characters and what they match. A pattern maps a place in a text to the places at
which a match that begins there may end; a text matches if there is any such place. Which of several
matches would be preferred does not matter here.
-/

namespace PromptForm

/-- Named classes of characters. -/
inductive CharClass where
  | digit | space | word | letter | capitalLetter | smallLetter | mark | numeric | alphabetic
deriving DecidableEq, Repr

def CharClass.has : CharClass → Char → Bool
  | .digit, c => Text.isDecimalDigit c
  | .space, c => Text.isBlank c
  | .word, c => Text.isWord c
  | .letter, c => Text.isLetter c
  | .capitalLetter, c => Text.isCapitalLetter c
  | .smallLetter, c => Text.isSmallLetter c
  | .mark, c => Text.isMark c
  | .numeric, c => Text.isNumeric c
  | .alphabetic, c => Text.isAlphabetic c

/-- Sets of characters. -/
inductive CharSet where
  | range (low high : Char)
  /-- A range and whatever differs from it in case only. -/
  | anyCase (low high : Char)
  | named (c : CharClass)
  | compl (s : CharSet)
  | union (s t : CharSet)
  | inter (s t : CharSet)
  | nothing
deriving Repr, DecidableEq

/-- Characters with more than two case forms: each with the forms that its plain case mappings miss. -/
def oddCases : List (Nat × Nat) :=
  [(0x53, 0x17F), (0x73, 0x17F), (0x4B, 0x212A), (0x6B, 0x212A), (0xC5, 0x212B), (0xE5, 0x212B),
   (0x39C, 0xB5), (0x3BC, 0xB5), (0x3A9, 0x2126), (0x3C9, 0x2126), (0x3A3, 0x3C2), (0x3C3, 0x3C2)]

/-- The single characters that differ from one in case only, itself included. -/
def caseForms (c : Char) : List Char :=
  let single (cs : List Char) : List Char := if cs.length == 1 then cs else []
  let up := single (Text.capital c)
  let down := single (Text.small c)
  [c] ++ up ++ down ++ up.flatMap (single ∘ Text.small) ++ down.flatMap (single ∘ Text.capital) ++
    (oddCases.filter (·.1 == c.toNat)).map (Char.ofNat ·.2)

namespace CharSet

def has : CharSet → Char → Bool
  | .range low high, c => low.toNat ≤ c.toNat && c.toNat ≤ high.toNat
  | .anyCase low high, c => (caseForms c).any fun d => low.toNat ≤ d.toNat && d.toNat ≤ high.toNat
  | .named k, c => k.has c
  | .compl s, c => !s.has c
  | .union s t, c => s.has c || t.has c
  | .inter s t, c => s.has c && t.has c
  | .nothing, _ => false

def single (c : Char) : CharSet := .range c c

def diff (s t : CharSet) : CharSet := .inter s (.compl t)

end CharSet

/-- Conditions on a place that take no character. -/
inductive Anchor where
  | textStart
  | textEnd
  | lineStart
  | lineEnd
  /-- Lines that a carriage return, a newline or one after the other ends. -/
  | returnLineStart
  | returnLineEnd
  | wordEdge
  | notWordEdge
  | wordStart
  | wordEnd
  /-- Where no word goes on from the left, or to the right. -/
  | noWordBefore
  | noWordAfter
deriving DecidableEq, Repr

inductive Pattern where
  | empty
  | one (set : CharSet)
  | anchor (a : Anchor)
  | seq (p q : Pattern)
  | alt (p q : Pattern)
  /-- At least `min` times, and at most `max` times if there is a `max`. -/
  | repeated (p : Pattern) (min : Nat) (max : Option Nat)
deriving Repr, DecidableEq

/-- A place in a text: the character before it and what follows. -/
structure Place where
  before : Option Char
  rest : List Char
deriving DecidableEq, Repr

def Anchor.holds (a : Anchor) (place : Place) : Bool :=
  let left := place.before.any Text.isWord
  let right := place.rest.head?.any Text.isWord
  match a with
  | .textStart => place.before.isNone
  | .textEnd => place.rest.isEmpty
  | .lineStart => place.before.all (· == '\n')
  | .lineEnd => place.rest.head?.all (· == '\n')
  | .returnLineStart => place.before.all fun c => c == '\n' || (c == '\r' && place.rest.head? != some '\n')
  | .returnLineEnd => place.rest.head?.all fun c => c == '\r' || (c == '\n' && place.before != some '\r')
  | .wordEdge => left != right
  | .notWordEdge => left == right
  | .wordStart => !left && right
  | .wordEnd => left && !right
  | .noWordBefore => !left
  | .noWordAfter => !right

namespace Pattern

/-- The places with every one but the first of its kind left out. -/
def distinct : List Place → List Place
  | [] => []
  | p :: ps => p :: (distinct ps).filter (·.rest.length != p.rest.length)

/-- A step applied so many times. -/
def times (step : Place → List Place) : Nat → List Place → List Place
  | 0, ps => ps
  | n + 1, ps => times step n (distinct (ps.flatMap step))

/-- The places reached by at most so many steps. Only what is new is stepped from again. -/
def reached (step : Place → List Place) : Nat → List Place → List Place → List Place
  | 0, seen, _ => seen
  | n + 1, seen, fresh =>
    let next := (distinct (fresh.flatMap step)).filter fun p =>
      !seen.any (·.rest.length == p.rest.length)
    if next.isEmpty then seen else reached step n (seen ++ next) next

/-- Where a match that begins at a place may end. -/
def ends : Pattern → Place → List Place
  | .empty, p => [p]
  | .one set, p =>
    match p.rest with
    | c :: cs => if set.has c then [⟨some c, cs⟩] else []
    | [] => []
  | .anchor a, p => if a.holds p then [p] else []
  | .seq q r, p => distinct ((q.ends p).flatMap r.ends)
  | .alt q r, p => distinct (q.ends p ++ r.ends p)
  | .repeated q min max, p =>
    let first := times q.ends min [p]
    let more :=
      match max with
      | some m => m - min
      | none => p.rest.length + 1
    reached q.ends more first first

/-- All places of a text, from the front. -/
def places (before : Option Char) : List Char → List Place
  | [] => [⟨before, []⟩]
  | c :: cs => ⟨before, c :: cs⟩ :: places (some c) cs

/-- The pattern matches somewhere in the text. -/
def matchesIn (p : Pattern) (text : List Char) : Bool :=
  (places none text).any fun place => !(p.ends place).isEmpty

/-- The pattern matches the text from its first to its last character. -/
def matchesWhole (p : Pattern) (text : List Char) : Bool :=
  (p.ends ⟨none, text⟩).any (·.rest.isEmpty)

end Pattern
end PromptForm
