import Mathlib.Data.List.TakeWhile
import SquareOne.Proofs.Text.Cuts

/-! The words between gaps. Everything about them follows from what a gap does to a text: it ends
one list of words and starts another.
-/

namespace SquareOne.Text

variable {isGap : Char → Bool} {text word : Text}

@[simp] theorem wordsBy_nil (isGap : Char → Bool) : wordsBy isGap [] = [] := by
  simp [wordsBy]

theorem wordsBy_append_gap {gap : Char} (isOne : isGap gap = true) (first second : Text) :
    wordsBy isGap (first ++ gap :: second) = wordsBy isGap first ++ wordsBy isGap second := by
  rw [wordsBy, List.splitOnP_append_cons first second isOne, List.filter_append]
  rfl

theorem wordsBy_cons_gap {gap : Char} (isOne : isGap gap = true) (rest : Text) :
    wordsBy isGap (gap :: rest) = wordsBy isGap rest := by
  simpa using wordsBy_append_gap isOne [] rest

theorem wordsBy_of_solid (nonempty : word ≠ []) (solid : ∀ char ∈ word, isGap char = false) :
    wordsBy isGap word = [word] := by
  rw [wordsBy, List.splitOnP_eq_singleton solid]
  simpa using nonempty

theorem wordsBy_eq_nil (gaps : ∀ char ∈ text, isGap char = true) : wordsBy isGap text = [] := by
  induction text with
  | nil => simp
  | cons char rest ih =>
      rw [wordsBy_cons_gap (gaps char (by simp))]
      exact ih fun other member => gaps other (List.mem_cons_of_mem _ member)

theorem wordsBy_gaps_append {gaps : Text} (areGaps : ∀ char ∈ gaps, isGap char = true)
    (rest : Text) : wordsBy isGap (gaps ++ rest) = wordsBy isGap rest := by
  induction gaps with
  | nil => rfl
  | cons char others ih =>
      rw [List.cons_append, wordsBy_cons_gap (areGaps char (by simp))]
      exact ih fun other member => areGaps other (List.mem_cons_of_mem _ member)

theorem wordsBy_append_gaps {gaps : Text} (areGaps : ∀ char ∈ gaps, isGap char = true)
    (front : Text) : wordsBy isGap (front ++ gaps) = wordsBy isGap front := by
  cases gaps with
  | nil => rw [List.append_nil]
  | cons char others =>
      rw [wordsBy_append_gap (areGaps char (by simp)),
        wordsBy_eq_nil fun other member => areGaps other (List.mem_cons_of_mem _ member),
        List.append_nil]

/-- A character in front of a text with no gap between them belongs to its first word. -/
theorem wordsBy_cons_solid {char next : Char} {rest : Text} (solid : isGap char = false)
    (nextSolid : isGap next = false) :
    ∃ word words, wordsBy isGap (next :: rest) = word :: words ∧
      wordsBy isGap (char :: next :: rest) = (char :: word) :: words := by
  obtain ⟨head, tail, cut⟩ := List.exists_cons_of_ne_nil (List.splitOnP_ne_nil isGap rest)
  refine ⟨next :: head, tail.filter fun word => !word.isEmpty, ?_, ?_⟩ <;>
    simp [wordsBy, List.splitOnP_cons_eq_if_modifyHead, solid, nextSolid, cut]

/-- A text is made from its end by gaps, and by words that stand before a gap or at the end. -/
@[elab_as_elim]
theorem wordInduction (isGap : Char → Bool) {motive : Text → Prop} (nil : motive [])
    (gap : ∀ char rest, isGap char = true → motive rest → motive (char :: rest))
    (word : ∀ word rest, word ≠ [] → (∀ char ∈ word, isGap char = false) →
      rest.head?.all isGap = true → motive rest → motive (word ++ rest))
    (text : Text) : motive text := by
  induction size : text.length using Nat.strong_induction_on generalizing text with
  | _ size ih =>
      subst size
      cases text with
      | nil => exact nil
      | cons char rest =>
          cases isOne : isGap char with
          | true => exact gap char rest isOne (ih _ (Nat.lt_succ_self _) rest rfl)
          | false =>
              have cut := @List.takeWhile_append_dropWhile _ (fun char => !isGap char) rest
              have shorter := List.length_dropWhile_le (fun char => !isGap char) rest
              rw [← cut, ← List.cons_append]
              refine word _ _ (List.cons_ne_nil _ _) ?_ ?_ (ih _ (Nat.lt_succ_of_le shorter) _ rfl)
              · refine List.forall_mem_cons.mpr ⟨isOne, fun other member => ?_⟩
                simpa using List.mem_takeWhile_imp member
              · have stopped := List.head?_dropWhile_not (fun char => !isGap char) rest
                cases behind : (rest.dropWhile fun char => !isGap char).head? with
                | none => rfl
                | some other => simpa [behind] using stopped

theorem wordsBy_word_append {rest : Text} (nonempty : word ≠ [])
    (solid : ∀ char ∈ word, isGap char = false) (parted : rest.head?.all isGap = true) :
    wordsBy isGap (word ++ rest) = word :: wordsBy isGap rest := by
  cases rest with
  | nil => rw [List.append_nil, wordsBy_of_solid nonempty solid, wordsBy_nil]
  | cons gap rest =>
      have isOne : isGap gap = true := parted
      rw [wordsBy_append_gap isOne, wordsBy_of_solid nonempty solid, wordsBy_cons_gap isOne]
      rfl

theorem wordsBy_eq_nil_iff : wordsBy isGap text = [] ↔ ∀ char ∈ text, isGap char = true := by
  refine ⟨fun noWords => ?_, wordsBy_eq_nil⟩
  induction text with
  | nil => simp
  | cons first rest ih =>
      by_cases gap : isGap first = true
      · rw [wordsBy_cons_gap gap] at noWords
        exact List.forall_mem_cons.mpr ⟨gap, ih noWords⟩
      · have solid : isGap first = false := by simpa using gap
        cases rest with
        | nil => simp [wordsBy, List.splitOnP_cons_eq_if_modifyHead, solid] at noWords
        | cons next rest =>
            by_cases nextGap : isGap next = true
            · rw [show first :: next :: rest = [first] ++ next :: rest from rfl,
                wordsBy_append_gap nextGap,
                wordsBy_of_solid (by simp) (by simpa using solid)] at noWords
              simp at noWords
            · have nextSolid : isGap next = false := by simpa using nextGap
              obtain ⟨word, words, -, longer⟩ :=
                @wordsBy_cons_solid _ first next rest solid nextSolid
              simp [longer] at noWords

theorem mem_splitOnP {piece : Text} (member : piece ∈ text.splitOnP isGap) :
    ∀ char ∈ piece, char ∈ text ∧ isGap char = false := by
  induction text generalizing piece with
  | nil => simp at member; simp [member]
  | cons first rest ih =>
      rw [List.splitOnP_cons_eq_if_modifyHead] at member
      split at member
      · rcases List.mem_cons.mp member with rfl | member
        · simp
        · intro char inPiece
          exact ⟨List.mem_cons_of_mem _ (ih member char inPiece).1, (ih member char inPiece).2⟩
      · rename_i solid
        obtain ⟨head, tail, cut⟩ := List.exists_cons_of_ne_nil (List.splitOnP_ne_nil isGap rest)
        rw [cut, List.modifyHead_cons] at member
        intro char inPiece
        rcases List.mem_cons.mp member with rfl | member
        · rcases List.mem_cons.mp inPiece with rfl | inPiece
          · exact ⟨by simp, by simpa using solid⟩
          · have inHead := ih (cut ▸ List.mem_cons_self) char inPiece
            exact ⟨List.mem_cons_of_mem _ inHead.1, inHead.2⟩
        · have inTail := ih (cut ▸ List.mem_cons_of_mem _ member) char inPiece
          exact ⟨List.mem_cons_of_mem _ inTail.1, inTail.2⟩

theorem mem_of_mem_wordsBy (member : word ∈ wordsBy isGap text) :
    word ≠ [] ∧ ∀ char ∈ word, char ∈ text ∧ isGap char = false :=
  ⟨wordsBy_ne_nil member, mem_splitOnP (List.mem_filter.mp member).1⟩

/-- Joining with a gap adds no words. -/
theorem wordsBy_joinWith {separator : Char} (isOne : isGap separator = true) (pieces : List Text) :
    wordsBy isGap (joinWith separator pieces) = pieces.flatMap (wordsBy isGap) := by
  induction pieces with
  | nil => simp
  | cons piece rest ih =>
      cases rest with
      | nil => simp
      | cons next rest =>
          rw [joinWith_cons_cons, wordsBy_append_gap isOne, ih]
          simp

end SquareOne.Text
