import Mathlib.Data.Int.ModEq
import SquareOne.Proofs.Puzzle.MoveLaws

/-! Turns that differ by full rounds. Twelve places more or less lead to the same state and leave
the same alignment, so that no sequence of moves can tell such turns apart.
-/

namespace SquareOne

/-- The two turns move both layers alike, up to full rounds. -/
def Turn.Congruent (first second : Turn) : Prop :=
  first.top ≡ second.top [ZMOD slotCount] ∧ first.bottom ≡ second.bottom [ZMOD slotCount]

namespace Alignment

variable {first second : Turn}

theorem advance_congruent (alignment : Alignment) (congruent : first.Congruent second) :
    alignment.advance first = alignment.advance second := by
  -- Three divides twelve, so a full round leaves the remainder by three as it is.
  have thirds : ∀ {places others : Int}, places ≡ others [ZMOD slotCount] →
      places % 3 = others % 3 := by
    intro places others same
    simp only [Int.ModEq, slotCount] at same
    omega
  rw [advance, advance, thirds congruent.1, thirds congruent.2]

end Alignment

inductive Move.Congruent : Move → Move → Prop
  | turn {first second : Turn} (congruent : first.Congruent second) :
      Congruent (.turn first) (.turn second)
  | swap : Congruent .swap .swap

theorem Move.Congruent.refl (move : Move) : move.Congruent move := by
  cases move with
  | turn offsets => exact .turn ⟨.refl _, .refl _⟩
  | swap => exact .swap

namespace State

theorem apply_congruent (state : State) {first second : Move} (congruent : first.Congruent second) :
    state.apply first = state.apply second := by
  have rotated : ∀ (layer : Layer) {places others : Int}, places ≡ others [ZMOD slotCount] →
      layer.rotate places = layer.rotate others := by
    intro layer places others same
    ext1
    exact congrArg (fun count : Int => layer.slots.drop count.toNat ++ layer.slots.take count.toNat)
      same
  cases congruent with
  | turn congruent =>
      rw [apply, apply, rotate, rotate, rotated _ congruent.1, rotated _ congruent.2]
  | swap => rfl

theorem applyAll_congruent (state : State) {first second : List Move}
    (congruent : List.Forall₂ Move.Congruent first second) :
    state.applyAll first = state.applyAll second := by
  induction congruent generalizing state with
  | nil => rfl
  | cons head _ ih => rw [applyAll_cons, applyAll_cons, state.apply_congruent head, ih]

/-- What takes one of two such sequences back takes the other one back, too. -/
theorem applyAll_inverses_congruent (state : State) {first second : List Move}
    (congruent : List.Forall₂ Move.Congruent first second) :
    state.applyAll (Move.inverses first) = state.applyAll (Move.inverses second) := by
  have forth := applyAll_inverses_first state first
  rw [applyAll_congruent _ congruent] at forth
  calc
    state.applyAll (Move.inverses first) =
        ((state.applyAll (Move.inverses first)).applyAll second).applyAll
          (Move.inverses second) := (applyAll_inverses _ second).symm
    _ = state.applyAll (Move.inverses second) := by rw [forth]

end State

end SquareOne
