import Mathlib.Data.List.DropRight
import PromptForm.Proofs.Condition.Agreement

/-! # Where conditions go wrong

The offset of a malformed condition is counted in the whole text, blanks in front and the sign of a formula included. A
scan of the body tells it: the scan comes to the same end as the readers and never leaves the body (`ofText_scanned`). -/

namespace PromptForm.Condition

/-- The byte at which the body of a condition begins: behind the blanks in front and the sign of a formula. -/
def bodyStart (raw : List Char) : Nat :=
  (Text.byteSize raw - Text.byteSize (Text.trimStart raw)) + (Text.byteSize (Text.trim raw) - Text.byteSize (bodyOf raw).2)

section Body
variable (raw : List Char)

/-- The body is all of the trimmed text but the sign. -/
theorem exists_sign : ∃ sign, Text.trim raw = sign ++ (bodyOf raw).2 := by
  unfold bodyOf
  split
  · rename_i rest hsign
    exact ⟨['='], hsign⟩
  · exact ⟨[], rfl⟩

theorem exists_around : ∃ before after, raw = before ++ (bodyOf raw).2 ++ after ∧ Text.byteSize before = bodyStart raw := by
  obtain ⟨sign, hsign⟩ := exists_sign raw
  have hstart : raw = raw.takeWhile Text.isBlank ++ Text.trimStart raw := List.takeWhile_append_dropWhile.symm
  obtain ⟨after, hafter⟩ : Text.trim raw <+: Text.trimStart raw := List.rdropWhile_prefix Text.isBlank (Text.trimStart raw)
  refine ⟨raw.takeWhile Text.isBlank ++ sign, after, ?_, ?_⟩
  · rw [List.append_assoc (raw.takeWhile Text.isBlank), ← hsign, List.append_assoc, hafter]
    exact hstart
  · have hblanks := congrArg Text.byteSize hstart
    have hbody := congrArg Text.byteSize hsign
    rw [Text.byteSize_append] at hblanks hbody
    rw [bodyStart, Text.byteSize_append]
    omega

end Body

variable {raw : List Char} {pos : Nat}

/-- What is left of the body is left of the whole text, up to what has been trimmed at its end. -/
theorem LeftAt.whole {left : List Char} (h : LeftAt (bodyOf raw).2 pos left) :
    ∃ after, LeftAt raw (bodyStart raw + pos) (left ++ after) := by
  obtain ⟨before, after, hraw, hstart⟩ := exists_around raw
  obtain ⟨front, hbody, rfl⟩ := h
  refine ⟨after, before ++ front, ?_, ?_⟩
  · rw [hbody] at hraw
    simpa using hraw
  · rw [Text.byteSize_append, hstart]

/-- A failure lies as far behind the beginning of the body as the scanner has come. -/
theorem offsetOf_eq {e : Failure} (h : LeftAt (bodyOf raw).2 pos e.rest) : offsetOf raw e = bodyStart raw + pos := by
  obtain ⟨sign, hsign⟩ := exists_sign raw
  have hbody := congrArg Text.byteSize hsign
  have hpos := h.pos_eq
  rw [Text.byteSize_append] at hbody
  rw [offsetOf, bodyStart]
  omega

namespace Stands
variable {body left : List Char} {place : Place}

theorem positions_ordered (h : Stands body place left) : place.positions.Pairwise (· ≤ ·) :=
  List.pairwise_reverse.mpr h.ordered

theorem exists_left (h : Stands body place left) : ∀ pos ∈ place.positions, ∃ left, LeftAt body pos left := by
  intro pos hpos
  rcases List.mem_cons.mp (List.mem_reverse.mp hpos) with rfl | hpast
  · exact ⟨left, h.here⟩
  · exact h.past pos hpast

end Stands

/-- A position with something left at it is one of the text and not inside a character. -/
theorem LeftAt.isPosition {text : String} {left : List Char} (h : LeftAt text.toList pos left) :
    pos ≤ text.utf8ByteSize ∧ (⟨pos⟩ : String.Pos.Raw).IsValid text := by
  have hvalid := h.isValid
  rw [String.ofList_toList] at hvalid
  exact ⟨hvalid.le_rawEndPos, hvalid⟩

/-- Reading a text gives a condition or an error about this text, and its offset is a position in the text that is not
    inside a character. A scanner which moves a byte position through the trimmed body by hand gives the same. It never
    looks outside the body or into a character, its positions are in the body and not inside of characters, and they
    do not decrease. -/
theorem ofText_scanned (raw : String) :
    ∃ place : Place,
      place.positions.Pairwise (· ≤ ·) ∧
      (∀ pos ∈ place.positions, pos ≤ (String.ofList (bodyOf raw.toList).2).utf8ByteSize ∧
        (⟨pos⟩ : String.Pos.Raw).IsValid (String.ofList (bodyOf raw.toList).2)) ∧
      ((∃ f, scan (bodyOf raw.toList).1 (bodyOf raw.toList).2 = .ok f place ∧ ofText raw = .ok ⟨raw, f⟩) ∨
        ∃ pos fault, scan (bodyOf raw.toList).1 (bodyOf raw.toList).2 = .error (.fault pos fault) place ∧
          ofText raw = .error ⟨raw, bodyStart raw.toList + pos, .condition fault⟩ ∧
          bodyStart raw.toList + pos ≤ raw.utf8ByteSize ∧
          (⟨bodyStart raw.toList + pos⟩ : String.Pos.Raw).IsValid raw) := by
  have hscan : Agrees (bodyOf raw.toList).2 (bodyOf raw.toList).2 (scan (bodyOf raw.toList).1 (bodyOf raw.toList).2)
      ((Reader.whole (bodyOf raw.toList).1 (bodyOf raw.toList).2).map (·, [])) :=
    Gives.whole {} (.start _)
  have hplace : ∀ {place left}, Stands (bodyOf raw.toList).2 place left → ∀ pos ∈ place.positions,
      pos ≤ (String.ofList (bodyOf raw.toList).2).utf8ByteSize ∧
        (⟨pos⟩ : String.Pos.Raw).IsValid (String.ofList (bodyOf raw.toList).2) := fun h pos hpos => by
    obtain ⟨left, hleft⟩ := h.exists_left pos hpos
    exact LeftAt.isPosition (by rwa [String.toList_ofList])
  unfold ofText
  generalize scan (bodyOf raw.toList).1 (bodyOf raw.toList).2 = outcome at hscan ⊢
  -- The scanner agrees with the reader, whose error holds what is left of the body where it was met.
  cases hread : Reader.whole (bodyOf raw.toList).1 (bodyOf raw.toList).2 with
  | ok f =>
    rw [hread] at hscan
    cases hscan with
    | ok h => exact ⟨_, h.positions_ordered, hplace h, .inl ⟨f, rfl, by simp only [hread]⟩⟩
  | error e =>
    rw [hread] at hscan
    cases hscan with
    | fault h hpos =>
      obtain ⟨after, hwhole⟩ := hpos.whole
      refine ⟨_, h.positions_ordered, hplace h, .inr ⟨_, _, rfl, ?_, hwhole.isPosition⟩⟩
      simp only [hread]
      rw [offsetOf_eq hpos]

/-- Two bytes of a letter, two of a sign, and nothing behind it. -/
example : (match scan .expression ['é', '|', '|'] with
    | .error (.fault pos fault) place => some (pos, fault, place.positions)
    | _ => none) = some (4, .endOfText, [0, 2, 4]) := by
  decide +kernel

end PromptForm.Condition
