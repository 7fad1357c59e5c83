import Mathlib.Data.List.Rotate
import SquareOne.Puzzle.State

/-! The laws of the moves: turns of one layer add up, and a swap undoes itself. Hence a sequence of
moves is taken back by the inverse moves in the opposite order.
-/

namespace SquareOne

theorem rotateSlots_eq_rotate {slots : Text} (full : slots.length = slotCount) (places : Int) :
    rotateSlots slots places = slots.rotate (places % slotCount).toNat := by
  have within : (places % slotCount).toNat ≤ slots.length := by
    rw [full]
    simp only [slotCount]
    omega
  exact (List.rotate_eq_drop_append_take within).symm

namespace Layer

theorem rotate_rotate (layer : Layer) (first second : Int) :
    (layer.rotate first).rotate second = layer.rotate (first + second) := by
  have full := layer.full
  have turned : (rotateSlots layer.slots first).length = slotCount := (layer.rotate first).full
  -- The two counts add up to the third only up to a full round.
  have round : ((first % slotCount).toNat + (second % slotCount).toNat) % slotCount =
      ((first + second) % slotCount).toNat := by
    simp only [slotCount]
    omega
  ext1
  change rotateSlots (rotateSlots layer.slots first) second =
    rotateSlots layer.slots (first + second)
  rw [rotateSlots_eq_rotate turned, rotateSlots_eq_rotate full, rotateSlots_eq_rotate full,
    List.rotate_rotate, ← List.rotate_mod, full, round]

@[simp] theorem rotate_zero (layer : Layer) : layer.rotate 0 = layer := by
  ext1
  exact (rotateSlots_eq_rotate layer.full 0).trans (List.rotate_zero _)

/-- The slots that come together in a swap part again in the next one. -/
theorem swapSlots_swapSlots {top : Text} (topFull : top.length = slotCount) (bottom : Text) :
    swapSlots (swapSlots top bottom).1 (swapSlots top bottom).2 = (top, bottom) := by
  have front : (top.take keptSlots).length = keptSlots := by
    rw [List.length_take, topFull]
    rfl
  have back : (top.drop keptSlots).length = keptSlots := by
    rw [List.length_drop, topFull]
    rfl
  rw [swapSlots, swapSlots, List.take_left' front, List.drop_left' front, List.take_left' back,
    List.drop_left' back, List.take_append_drop, List.take_append_drop]

end Layer

namespace State

@[simp] theorem swapHalves_swapHalves (state : State) : state.swapHalves.swapHalves = state := by
  have parted := Layer.swapSlots_swapSlots state.top.full state.bottom.slots
  ext1
  · ext1
    exact congrArg Prod.fst parted
  · ext1
    exact congrArg Prod.snd parted

theorem rotate_rotate (state : State) (top bottom nextTop nextBottom : Int) :
    (state.rotate top bottom).rotate nextTop nextBottom =
      state.rotate (top + nextTop) (bottom + nextBottom) := by
  rw [rotate, rotate, rotate, Layer.rotate_rotate, Layer.rotate_rotate]

theorem apply_inverse (state : State) (move : Move) :
    (state.apply move).apply move.inverse = state := by
  cases move with
  | turn offsets =>
      change (state.rotate offsets.top offsets.bottom).rotate (-offsets.top) (-offsets.bottom) =
        state
      rw [rotate_rotate, Int.add_right_neg, Int.add_right_neg, rotate, Layer.rotate_zero,
        Layer.rotate_zero]
  | swap => exact swapHalves_swapHalves state

end State

namespace Move

theorem inverses_cons (move : Move) (rest : List Move) :
    inverses (move :: rest) = inverses rest ++ [move.inverse] := by
  rw [inverses, List.map_cons, List.reverse_cons]
  rfl

theorem inverses_append (first second : List Move) :
    inverses (first ++ second) = inverses second ++ inverses first := by
  rw [inverses, List.map_append, List.reverse_append]
  rfl

@[simp] theorem inverses_inverses (moves : List Move) : inverses (inverses moves) = moves := by
  induction moves with
  | nil => rfl
  | cons move rest ih =>
      rw [inverses_cons, inverses_append, ih, inverses_cons, inverse_inverse]
      rfl

theorem turns_append (first second : List Move) :
    turns (first ++ second) = turns first ++ turns second :=
  List.filterMap_append

theorem turns_intercalate_swap (parts : List (List Move)) :
    turns ([swap].intercalate parts) = parts.flatMap turns := by
  induction parts with
  | nil => rfl
  | cons part rest ih =>
      cases rest with
      | nil => simp
      | cons next others =>
          rw [List.intercalate_cons_cons, turns_append, turns_append, ih, List.flatMap_cons]
          exact congrArg (· ++ _) (List.append_nil _)

theorem intercalate_swap_concat {parts : List (List Move)} (nonempty : parts ≠ [])
    (last : List Move) :
    [swap].intercalate (parts ++ [last]) = [swap].intercalate parts ++ swap :: last := by
  induction parts with
  | nil => exact absurd rfl nonempty
  | cons part rest ih =>
      cases rest with
      | nil => simp [List.intercalate_cons_cons]
      | cons next others =>
          have inner := ih (List.cons_ne_nil next others)
          rw [List.cons_append] at inner
          rw [List.cons_append, List.cons_append, List.intercalate_cons_cons, inner,
            List.intercalate_cons_cons]
          simp

/-- Parts with swaps between them are taken back part by part, with a swap in every old place. -/
theorem inverses_intercalate_swap (parts : List (List Move)) :
    inverses ([swap].intercalate parts) = [swap].intercalate (parts.reverse.map inverses) := by
  induction parts with
  | nil => rfl
  | cons part rest ih =>
      cases rest with
      | nil => simp
      | cons next others =>
          have behind : (next :: others).reverse.map inverses ≠ [] := by simp
          rw [List.intercalate_cons_cons, inverses_append, inverses_append, ih,
            List.reverse_cons (a := part), List.map_append, List.map_singleton,
            intercalate_swap_concat behind]
          simp [inverses, inverse]

end Move

namespace State

theorem applyAll_inverses (state : State) (moves : List Move) :
    (state.applyAll moves).applyAll (Move.inverses moves) = state := by
  induction moves generalizing state with
  | nil => rfl
  | cons move rest ih =>
      rw [applyAll_cons, Move.inverses_cons, applyAll_append, ih]
      exact apply_inverse state move

theorem applyAll_inverses_first (state : State) (moves : List Move) :
    (state.applyAll (Move.inverses moves)).applyAll moves = state := by
  have undone := applyAll_inverses state (Move.inverses moves)
  rwa [Move.inverses_inverses] at undone

section Parts

theorem apply_comm {first second : Move} (firstTurn : first ≠ .swap) (secondTurn : second ≠ .swap)
    (state : State) : (state.apply first).apply second = (state.apply second).apply first := by
  cases first with
  | swap => exact absurd rfl firstTurn
  | turn offsets =>
      cases second with
      | swap => exact absurd rfl secondTurn
      | turn others =>
          change (state.rotate offsets.top offsets.bottom).rotate others.top others.bottom =
            (state.rotate others.top others.bottom).rotate offsets.top offsets.bottom
          rw [rotate_rotate, rotate_rotate, Int.add_comm others.top, Int.add_comm others.bottom]

/-- Turns may be made in any order. -/
theorem applyAll_perm {first second : List Move} (perm : first.Perm second)
    (turnsOnly : .swap ∉ first) (state : State) : state.applyAll first = state.applyAll second := by
  have isTurn : ∀ move ∈ first, move ≠ .swap := by
    rintro move member rfl
    exact turnsOnly member
  exact perm.foldl_eq'
    (fun move member other otherMember state =>
      apply_comm (isTurn move member) (isTurn other otherMember) state) state

theorem applyAll_intercalate_swap_congr {parts : List (List Move)}
    {first second : List Move → List Move}
    (same : ∀ part ∈ parts, ∀ state : State,
      state.applyAll (first part) = state.applyAll (second part)) (state : State) :
    state.applyAll ([.swap].intercalate (parts.map first)) =
      state.applyAll ([.swap].intercalate (parts.map second)) := by
  induction parts generalizing state with
  | nil => rfl
  | cons part rest ih =>
      have here := same part List.mem_cons_self
      have behind := ih fun other member => same other (List.mem_cons_of_mem part member)
      cases rest with
      | nil => simpa using here state
      | cons next others =>
          simp only [List.map_cons, List.intercalate_cons_cons, applyAll_append, here] at behind ⊢
          exact behind _

/-- Parts of turns with swaps between them are taken back part by part; inside a part the turns may
keep their order. -/
theorem applyAll_parts_inverse {parts : List (List Move)}
    (turnsOnly : ∀ part ∈ parts, .swap ∉ part) (state : State) :
    (state.applyAll ([.swap].intercalate parts)).applyAll
      ([.swap].intercalate (parts.reverse.map (List.map Move.inverse))) = state := by
  have anyOrder : ∀ part ∈ parts.reverse, ∀ state : State,
      state.applyAll (part.map Move.inverse) = state.applyAll (Move.inverses part) := by
    intro part member
    refine applyAll_perm (List.reverse_perm _).symm fun swapMember => ?_
    obtain ⟨move, moveMember, inverted⟩ := List.mem_map.mp swapMember
    cases move with
    | turn => cases inverted
    | swap => exact turnsOnly part (List.mem_reverse.mp member) moveMember
  rw [applyAll_intercalate_swap_congr anyOrder, ← Move.inverses_intercalate_swap,
    applyAll_inverses]

end Parts

end State

end SquareOne
