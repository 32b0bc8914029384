import PromptForm.Proofs.Condition.Operands
import PromptForm.Proofs.Condition.Scanner

/-! # The positions of a scan

What is left at the position of a scanner is what a reader has left to read (`LeftAt`, `Stands`), up to blanks that one of
them has passed already. A scan agrees with what a reader gives if it ends at a later position with the same result, or
shows the same fault where the reader has failed (`Gives`). For each move of the scanner and each look that it takes there
is a rule by which the rest of the scan may go on from there. -/

namespace PromptForm

/-! ### Bytes -/

namespace Text

@[simp] theorem byteSize_nil : byteSize [] = 0 := rfl

theorem foldl_utf8Size (cs : List Char) (n : Nat) : cs.foldl (fun n c => n + c.utf8Size) n = n + byteSize cs := by
  induction cs generalizing n with
  | nil => rfl
  | cons c cs ih =>
    have hsize : byteSize (c :: cs) = 0 + c.utf8Size + byteSize cs := ih (0 + c.utf8Size)
    rw [List.foldl_cons, ih, hsize]
    omega

@[simp] theorem byteSize_cons (c : Char) (cs : List Char) : byteSize (c :: cs) = c.utf8Size + byteSize cs := by
  rw [byteSize, List.foldl_cons, foldl_utf8Size, Nat.zero_add]

@[simp] theorem byteSize_append (cs ds : List Char) : byteSize (cs ++ ds) = byteSize cs + byteSize ds := by
  rw [byteSize, List.foldl_append, foldl_utf8Size]
  rfl

theorem utf8ByteSize_ofList : ∀ cs : List Char, (String.ofList cs).utf8ByteSize = byteSize cs
  | [] => rfl
  | c :: cs => by
    rw [String.ofList_cons, String.utf8ByteSize_append, String.utf8ByteSize_singleton, utf8ByteSize_ofList cs,
      byteSize_cons]

theorem from?_append : ∀ (cs ds : List Char), from? (cs ++ ds) (byteSize cs) = some ds
  | [], ds => by cases ds <;> rfl
  | c :: cs, ds => by
    obtain ⟨n, hn⟩ := Nat.exists_eq_add_one.mpr (Char.utf8Size_pos c)
    have hsize : byteSize (c :: cs) = n + byteSize cs + 1 := by rw [byteSize_cons, hn]; omega
    rw [hsize, List.cons_append, from?, if_pos (by omega), ← hsize, byteSize_cons, Nat.add_sub_cancel_left,
      from?_append cs ds]

theorem upTo?_append : ∀ (cs ds : List Char), upTo? (cs ++ ds) (byteSize cs) = some cs
  | [], ds => by cases ds <;> rfl
  | c :: cs, ds => by
    obtain ⟨n, hn⟩ := Nat.exists_eq_add_one.mpr (Char.utf8Size_pos c)
    have hsize : byteSize (c :: cs) = n + byteSize cs + 1 := by rw [byteSize_cons, hn]; omega
    rw [hsize, List.cons_append, upTo?, if_pos (by omega), ← hsize, byteSize_cons, Nat.add_sub_cancel_left,
      upTo?_append cs ds]
    rfl

end Text

namespace Condition
open Reader (skip)

/-! ### Places -/

/-- A text is left of a body at a byte position. -/
def LeftAt (body : List Char) (pos : Nat) (left : List Char) : Prop :=
  ∃ before, body = before ++ left ∧ Text.byteSize before = pos

namespace LeftAt
variable {body left front : List Char} {pos : Nat}

theorem start (body : List Char) : LeftAt body 0 body := ⟨[], rfl, rfl⟩

theorem finish (body : List Char) : LeftAt body (Text.byteSize body) [] := ⟨body, (List.append_nil _).symm, rfl⟩

theorem from? (h : LeftAt body pos left) : Text.from? body pos = some left := by
  obtain ⟨before, rfl, rfl⟩ := h
  exact Text.from?_append before left

theorem suffix (h : LeftAt body pos left) : left <:+ body := by
  obtain ⟨before, rfl, -⟩ := h
  exact List.suffix_append before left

theorem add (h : LeftAt body pos (front ++ left)) : LeftAt body (pos + Text.byteSize front) left := by
  obtain ⟨before, rfl, rfl⟩ := h
  exact ⟨before ++ front, by rw [List.append_assoc], Text.byteSize_append before front⟩

/-- The position tells what is left, and what is left tells the position. -/
theorem pos_eq (h : LeftAt body pos left) : pos + Text.byteSize left = Text.byteSize body := by
  obtain ⟨before, rfl, rfl⟩ := h
  rw [Text.byteSize_append]

/-- Behind what is left there is a later position. -/
theorem le_of_suffix {later : List Char} {pos' : Nat} (h : LeftAt body pos left) (h' : LeftAt body pos' later)
    (hsuffix : later <:+ left) : pos ≤ pos' := by
  obtain ⟨front, rfl⟩ := hsuffix
  have hpos := h.pos_eq
  have hpos' := h'.pos_eq
  rw [Text.byteSize_append] at hpos
  omega

/-- A position with something left at it is one between characters. -/
theorem isValid (h : LeftAt body pos left) : (⟨pos⟩ : String.Pos.Raw).IsValid (String.ofList body) := by
  obtain ⟨before, rfl, rfl⟩ := h
  refine String.Pos.Raw.isValid_iff_exists_append.mpr ⟨String.ofList before, String.ofList left, String.ofList_append, ?_⟩
  exact String.Pos.Raw.ext (Text.utf8ByteSize_ofList before).symm

end LeftAt

/-- A scanner stands where a text is left, after positions that do not decrease and lie between characters. -/
structure Stands (body : List Char) (place : Place) (left : List Char) : Prop where
  here : LeftAt body place.pos left
  past : ∀ pos ∈ place.past, ∃ left, LeftAt body pos left
  ordered : (place.pos :: place.past).Pairwise (· ≥ ·)

namespace Stands
variable {body left later : List Char} {place : Place} {pos : Nat}

theorem start (body : List Char) : Stands body {} body := ⟨.start body, nofun, List.pairwise_singleton _ _⟩

theorem moveTo (h : Stands body place left) (hpos : LeftAt body pos later) (hsuffix : later <:+ left) :
    Stands body ⟨pos, place.pos :: place.past⟩ later where
  here := hpos
  past := List.forall_mem_cons.mpr ⟨⟨left, h.here⟩, h.past⟩
  ordered := by
    refine List.pairwise_cons.mpr ⟨List.forall_mem_cons.mpr ⟨?_, fun earlier hmem => ?_⟩, h.ordered⟩
    · exact h.here.le_of_suffix hpos hsuffix
    · exact Nat.le_trans ((List.pairwise_cons.mp h.ordered).1 earlier hmem) (h.here.le_of_suffix hpos hsuffix)

end Stands

/-! ### Agreement -/

/-- A scan gives what a reader gives, and has not left what was ahead of it. A reader and the scanner may have passed blanks
    that the other one has not. -/
inductive Agrees (body text : List Char) {α : Type} : EStateM.Result Halt Place α → Step α → Prop where
  | ok {a place left rest} (h : Stands body place left) (hleft : left <:+ text) (hskip : skip left = skip rest) :
      Agrees body text (.ok a place) (.ok (a, rest))
  | fault {pos place left rest fault} (h : Stands body place left) (hpos : LeftAt body pos rest) (hle : pos ≤ place.pos) :
      Agrees body text (.error (.fault pos fault) place) (.error ⟨rest, fault⟩)

/-- From where a text is left the scan agrees with what a reader gives. -/
def Gives (body : List Char) {α : Type} (x : Scan α) (text : List Char) (given : Step α) : Prop :=
  ∀ place, Stands body place text → Agrees body text (x place) given

theorem skip_suffix (cs : List Char) : skip cs <:+ cs := List.dropWhile_suffix _

theorem length_skip_le (cs : List Char) : (skip cs).length ≤ cs.length := (skip_suffix cs).length_le

theorem length_skip_of_suffix {left text : List Char} (h : left <:+ text) : (skip left).length ≤ (skip text).length := by
  obtain ⟨front, rfl⟩ := h
  unfold skip
  rw [List.dropWhile_append]
  split
  · exact Nat.le_refl _
  · rw [List.length_append]
    exact Nat.le_trans (length_skip_le left) (Nat.le_add_left _ _)

namespace Gives
variable {body text left cs : List Char} {α β : Type} {x : Scan α} {k : α → Scan β} {given : Step α} {result : Step β}

theorem of_suffix (h : Gives body x left given) (hleft : left <:+ text) {place : Place} (hplace : Stands body place left) :
    Agrees body text (x place) given := by
  have hx := h place hplace
  generalize x place = outcome at hx ⊢
  cases hx with
  | ok hstands hsuffix hskip => exact .ok hstands (hsuffix.trans hleft) hskip
  | fault hstands hpos hle => exact .fault hstands hpos hle

/-- One scan after another. -/
theorem bind (hx : Gives body x text given) (herror : ∀ e, given = .error e → result = .error e)
    (hok : ∀ a rest left, given = .ok (a, rest) → skip left = skip rest → left <:+ text → Gives body (k a) left result) :
    Gives body (x >>= k) text result := by
  intro place hplace
  have hfirst := hx place hplace
  show Agrees body text (EStateM.bind x k place) result
  unfold EStateM.bind
  generalize x place = outcome at hfirst ⊢
  cases hfirst with
  | ok h hleft hskip => exact (hok _ _ _ rfl hskip hleft).of_suffix hleft h
  | fault h hpos hle =>
    rw [herror _ rfl]
    exact .fault h hpos hle

theorem pure {a : α} {rest : List Char} (h : skip text = skip rest) :
    Gives body (Pure.pure a) text (.ok (a, rest)) :=
  fun _ hplace => .ok hplace List.suffix_rfl h

theorem fail {fault : ConditionFault} : Gives body (Scanner.fail fault : Scan α) text (.error ⟨text, fault⟩) :=
  fun _ hplace => .fault hplace hplace.here (Nat.le_refl _)

/-- A fault that shows at a position before. -/
theorem throw {pos : Nat} {fault : ConditionFault} (hpos : LeftAt body pos cs) (hsuffix : text <:+ cs) :
    Gives body (throw (.fault pos fault) : Scan α) text (.error ⟨cs, fault⟩) :=
  fun _ hplace => .fault hplace hpos (hpos.le_of_suffix hplace.here hsuffix)

/-! ### Moves and looks -/

theorem position {k : Nat → Scan β} (h : ∀ pos, LeftAt body pos text → Gives body (k pos) text result) :
    Gives body (Scanner.position >>= k) text result :=
  fun place hplace => h place.pos hplace.here place hplace

theorem moveTo {k : Unit → Scan β} {pos : Nat} (hpos : LeftAt body pos left) (hleft : left <:+ text)
    (h : Gives body (k ()) left result) : Gives body (Scanner.moveTo pos >>= k) text result :=
  fun _ hplace => h.of_suffix hleft (hplace.moveTo hpos hleft)

theorem advance {k : Unit → Scan β} {front : List Char} (h : Gives body (k ()) left result) :
    Gives body (Scanner.advance (Text.byteSize front) >>= k) (front ++ left) result := by
  unfold Scanner.advance
  rw [bind_assoc]
  exact position fun pos hpos => moveTo hpos.add (List.suffix_append front left) h

theorem advance_one {k : Unit → Scan β} {c : Char} (h : Gives body (k ()) left result) :
    Gives body (Scanner.advance c.utf8Size >>= k) (c :: left) result := by
  have hone : Gives body (Scanner.advance (Text.byteSize [c]) >>= k) ([c] ++ left) result := advance h
  rwa [Text.byteSize_cons, Text.byteSize_nil, Nat.add_zero] at hone

variable {k : List Char → Scan β}

theorem slice {pos : Nat} (hpos : LeftAt body pos left) (h : Gives body (k left) text result) :
    Gives body (Scanner.slice body pos >>= k) text result := by
  rwa [Scanner.slice, hpos.from?, pure_bind]

theorem sliceTo {pos : Nat} {front : List Char} (hpos : LeftAt body pos (front ++ left))
    (h : Gives body (k front) text result) :
    Gives body (Scanner.sliceTo body pos (pos + Text.byteSize front) >>= k) text result := by
  rwa [Scanner.sliceTo, Text.between?, if_pos (Nat.le_add_right _ _), hpos.from?, Option.bind_some,
    Nat.add_sub_cancel_left, Text.upTo?_append, pure_bind]

theorem ahead (h : Gives body (k text) text result) : Gives body (Scanner.ahead body >>= k) text result := by
  unfold Scanner.ahead
  rw [bind_assoc]
  exact position fun _ hpos => slice hpos h

theorem skipRounds {k : Unit → Scan β} : ∀ (rounds : Nat) {text : List Char}, text.length < rounds →
    Gives body (k ()) (skip text) result → Gives body (Scanner.skipRounds body rounds >>= k) text result
  | rounds + 1, text, hlt, h => by
    unfold Scanner.skipRounds
    rw [bind_assoc]
    refine ahead ?_
    cases text with
    | nil => exact h
    | cons c left =>
      by_cases hc : Text.isBlank c = true
      · rw [skip, List.dropWhile_cons_of_pos hc] at h
        simp only [hc, ↓reduceIte, bind_assoc]
        exact advance_one (skipRounds rounds (Nat.lt_of_succ_lt_succ hlt) h)
      · rw [skip_cons (by simpa using hc)] at h
        simp only [hc]
        exact h

theorem skipBlanks {k : Unit → Scan β} (h : Gives body (k ()) (skip text) result) :
    Gives body (Scanner.skipBlanks body >>= k) text result := fun place hplace =>
  skipRounds _ (Nat.lt_succ_of_le hplace.here.suffix.length_le) h place hplace

theorem rest (h : Gives body (k (skip text)) (skip text) result) : Gives body (Scanner.rest body >>= k) text result := by
  unfold Scanner.rest
  rw [bind_assoc]
  exact skipBlanks (ahead h)

theorem peek {k : Option Char → Scan β} (h : Gives body (k (skip text).head?) (skip text) result) :
    Gives body (Scanner.peek body >>= k) text result := by
  unfold Scanner.peek
  rw [bind_assoc]
  exact rest (by rwa [pure_bind])

/-- A token is taken where a reader takes it. -/
theorem eat {k : Bool → Scan β} {token : List Char} (hskip : skip text = skip cs)
    (hyes : ∀ left, Reader.eat? token cs = some left → skip text = token ++ left → Gives body (k true) left result)
    (hno : Reader.eat? token cs = none → Gives body (k false) (skip text) result) :
    Gives body (Scanner.eat body token >>= k) text result := by
  unfold Scanner.eat
  rw [bind_assoc]
  refine rest ?_
  rw [Reader.eat?, ← hskip] at hyes hno
  cases htoken : Text.afterPrefix? token (skip text) with
  | none =>
    simp only [Option.isSome_none, Bool.false_eq_true, ↓reduceIte, pure_bind]
    exact hno htoken
  | some left =>
    have htext := Text.eq_append_of_afterPrefix? htoken
    simp only [Option.isSome_some, ↓reduceIte, bind_assoc, pure_bind]
    rw [htext]
    exact advance (hyes left htoken htext)

theorem expect {k : Unit → Scan β} {token : Char} (hskip : skip text = skip cs)
    (herror : ∀ e, Reader.expect token cs = .error e → result = .error e)
    (hok : ∀ left, Reader.expect token cs = .ok left → skip text = token :: left → Gives body (k ()) left result) :
    Gives body (Scanner.expect body token >>= k) text result := by
  unfold Scanner.expect
  rw [bind_assoc]
  refine eat hskip (fun left heat htext => ?_) fun heat => ?_
  · simp only [↓reduceIte, pure_bind]
    exact hok left (by rw [Reader.expect, heat]) htext
  · simp only [Bool.false_eq_true, ↓reduceIte]
    have hfail := herror _ (by rw [Reader.expect, heat])
    rw [hfail, ← hskip]
    exact fail.bind (by simp) (by simp)

end Gives
end Condition
end PromptForm
