import Mathlib.Algebra.BigOperators.Group.List.Basic
import Mathlib.Data.ZMod.Basic
import Mathlib.Tactic.Ring
import SquareOne.Proofs.Puzzle.MoveLaws

/-! Moves as permutations of the twenty-four slots. What a slot holds after a move stood in one slot
before it, the same one in every state, whatever the symbols are.
-/

namespace SquareOne

/-- A slot of the puzzle: its layer, and its place there, counted clockwise from zero and modulo
twelve. -/
abbrev Slot := Side × ZMod 12

theorem val_add_six {place : ZMod 12} :
    (place + 6).val = if place.val < keptSlots then place.val + 6 else place.val - 6 := by
  revert place
  decide

namespace Layer

variable (layer top bottom : Layer) (place : ZMod 12)

def symbolAt : Char :=
  layer.slots.get ⟨place.val, by rw [layer.full]; exact ZMod.val_lt place⟩

theorem symbolAt_rotate (places : Int) :
    (layer.rotate places).symbolAt place = layer.symbolAt (place + places) := by
  have round : (place.val + (places % slotCount).toNat) % slotCount =
      (place + (places : ZMod 12)).val := by
    have count := ZMod.val_intCast (n := 12) places
    rw [ZMod.val_add, slotCount]
    omega
  simp only [symbolAt, rotate, rotateSlots_eq_rotate layer.full, List.get_eq_getElem,
    List.getElem_rotate, layer.full, round]

theorem symbolAt_front :
    (top.front bottom).symbolAt place =
      if place.val < keptSlots then top.symbolAt place else bottom.symbolAt (place + 6) := by
  have kept : (top.slots.take keptSlots).length = keptSlots := by
    rw [List.length_take, top.full]
    rfl
  simp only [symbolAt, front, swapSlots, List.get_eq_getElem, List.getElem_append, kept,
    List.getElem_take, val_add_six]
  split <;> rfl

theorem symbolAt_back :
    (top.back bottom).symbolAt place =
      if place.val < keptSlots then top.symbolAt (place + 6) else bottom.symbolAt place := by
  have kept : (top.slots.drop keptSlots).length = keptSlots := by
    rw [List.length_drop, top.full]
    rfl
  simp only [symbolAt, back, swapSlots, List.get_eq_getElem, List.getElem_append, kept,
    List.getElem_drop, val_add_six]
  split
  · simp only [Nat.add_comm keptSlots]
    rfl
  · rename_i behind
    simp only [Nat.add_sub_cancel' (Nat.le_of_not_lt behind)]

end Layer

namespace Turn

/-- The number of places by which the turn moves a layer. -/
def places (turn : Turn) : Side → Int
  | .top => turn.top
  | .bottom => turn.bottom

/-- The slot that each slot is filled from in the turn. -/
def origin (turn : Turn) : Equiv.Perm Slot where
  toFun slot := (slot.1, slot.2 + turn.places slot.1)
  invFun slot := (slot.1, slot.2 - turn.places slot.1)
  left_inv slot := by simp
  right_inv slot := by simp

theorem origin_mul (first second : Turn) :
    first.origin * second.origin =
      origin ⟨first.top + second.top, first.bottom + second.bottom⟩ := by
  ext1 ⟨side, place⟩
  have sum : place + second.places side + first.places side =
      place + places ⟨first.top + second.top, first.bottom + second.bottom⟩ side := by
    cases side <;> simp only [places, Int.cast_add] <;> ring
  exact congrArg (Prod.mk side) sum

theorem origin_negate (turn : Turn) : turn.negate.origin = turn.origin⁻¹ := by
  ext1 ⟨side, place⟩
  have difference : place + turn.negate.places side = place - turn.places side := by
    cases side <;> simp only [places, negate, Int.cast_neg] <;> ring
  exact congrArg (Prod.mk side) difference

end Turn

namespace Move

/-- The slot that a slot is filled from in a swap: the back half of the top layer and the front half
of the bottom layer change places. -/
def swapOrigin : Slot → Slot
  | (.top, place) => if place.val < keptSlots then (.top, place) else (.bottom, place + 6)
  | (.bottom, place) => if place.val < keptSlots then (.top, place + 6) else (.bottom, place)

theorem swapOrigin_involutive : Function.Involutive swapOrigin := by
  rintro ⟨side, place⟩
  cases side <;> revert place <;> decide

/-- The slot that each slot is filled from in a move. -/
def origin : Move → Equiv.Perm Slot
  | .turn offsets => offsets.origin
  | .swap => swapOrigin_involutive.toPerm

/-- The slot that each slot is filled from when all `moves` have been made. -/
def origins (moves : List Move) : Equiv.Perm Slot :=
  (moves.map origin).prod

theorem origins_pair (first second : Move) :
    origins [first, second] = first.origin * second.origin :=
  List.prod_pair

theorem origin_inverse (move : Move) : move.inverse.origin = move.origin⁻¹ := by
  cases move with
  | turn offsets => exact offsets.origin_negate
  | swap => exact swapOrigin_involutive.toPerm_symm

theorem origins_append (first second : List Move) :
    origins (first ++ second) = origins first * origins second := by
  rw [origins, List.map_append, List.prod_append]
  rfl

theorem origins_inverses (moves : List Move) : origins (inverses moves) = (origins moves)⁻¹ := by
  rw [origins, origins, inverses, List.prod_inv_reverse, List.map_reverse, List.map_map,
    List.map_map]
  congr 3
  funext move
  exact origin_inverse move

end Move

namespace State

/-- What stands in a slot. -/
def symbolAt (state : State) : Slot → Char
  | (.top, place) => state.top.symbolAt place
  | (.bottom, place) => state.bottom.symbolAt place

/-- The symbols of all slots, those of the top layer first. -/
def symbols (state : State) : Text :=
  state.top.slots ++ state.bottom.slots

/-- A step moves what the slots hold, and nothing else. -/
theorem symbolAt_apply (state : State) (move : Move) (slot : Slot) :
    (state.apply move).symbolAt slot = state.symbolAt (move.origin slot) := by
  obtain ⟨side, place⟩ := slot
  cases move with
  | turn offsets =>
      cases side with
      | top => exact state.top.symbolAt_rotate place offsets.top
      | bottom => exact state.bottom.symbolAt_rotate place offsets.bottom
  | swap =>
      cases side with
      | top =>
          refine (Layer.symbolAt_front state.top state.bottom place).trans ?_
          rw [Move.origin, Function.Involutive.coe_toPerm, Move.swapOrigin]
          split <;> rfl
      | bottom =>
          refine (Layer.symbolAt_back state.top state.bottom place).trans ?_
          rw [Move.origin, Function.Involutive.coe_toPerm, Move.swapOrigin]
          split <;> rfl

theorem symbolAt_applyAll (state : State) (moves : List Move) (slot : Slot) :
    (state.applyAll moves).symbolAt slot = state.symbolAt (Move.origins moves slot) := by
  induction moves generalizing state with
  | nil => rfl
  | cons move rest ih =>
      rw [applyAll_cons, ih, symbolAt_apply]
      rfl

theorem rotateSlots_perm (slots : Text) (places : Int) : (rotateSlots slots places).Perm slots :=
  List.perm_append_comm.trans (.of_eq (List.take_append_drop _ slots))

theorem symbols_apply (state : State) (move : Move) :
    (state.apply move).symbols.Perm state.symbols := by
  cases move with
  | turn offsets => exact (rotateSlots_perm _ _).append (rotateSlots_perm _ _)
  | swap =>
      let front : Text → Text := List.take keptSlots
      let back : Text → Text := List.drop keptSlots
      have exchanged : (front state.bottom.slots ++ back state.top.slots).Perm
          (back state.top.slots ++ front state.bottom.slots) :=
        List.perm_append_comm
      calc
        (state.apply .swap).symbols =
            front state.top.slots ++ (front state.bottom.slots ++ back state.top.slots) ++
              back state.bottom.slots := by
          simp [symbols, apply, swapHalves, Layer.front, Layer.back, swapSlots, front, back]
        List.Perm _ (front state.top.slots ++ (back state.top.slots ++ front state.bottom.slots) ++
              back state.bottom.slots) := (exchanged.append_left _).append_right _
        _ = state.symbols := by
          rw [← List.append_assoc, List.take_append_drop, List.append_assoc, List.take_append_drop]
          rfl

theorem symbols_applyAll (state : State) (moves : List Move) :
    (state.applyAll moves).symbols.Perm state.symbols := by
  induction moves generalizing state with
  | nil => rfl
  | cons move rest ih => exact (ih (state.apply move)).trans (state.symbols_apply move)

/-- A move as it is made on bare texts, with every check of their lengths. -/
def applyChecked (state : State) : Move → Except Fault State
  | .turn offsets =>
      ofSlots (rotateSlots state.top.slots offsets.top)
        (rotateSlots state.bottom.slots offsets.bottom)
  | .swap => do
      let (top, bottom) ← exchangeSlots state.top.slots state.bottom.slots
      ofSlots top bottom

theorem ofSlots_slots (state : State) :
    ofSlots state.top.slots state.bottom.slots = .ok state := by
  rw [ofSlots, dif_pos state.top.full, dif_pos state.bottom.full]

theorem applyChecked_eq (state : State) (move : Move) :
    state.applyChecked move = .ok (state.apply move) := by
  cases move with
  | turn offsets => exact ofSlots_slots (state.rotate offsets.top offsets.bottom)
  | swap =>
      rw [applyChecked, exchangeSlots, if_pos ⟨state.top.full, state.bottom.full⟩]
      exact ofSlots_slots state.swapHalves

theorem foldlM_applyChecked (state : State) (moves : List Move) :
    moves.foldlM applyChecked state = .ok (state.applyAll moves) := by
  induction moves generalizing state with
  | nil => rfl
  | cons move rest ih =>
      rw [List.foldlM_cons, applyChecked_eq]
      exact ih (state.apply move)

/-- Moves act by permutations of the slots that depend on the moves alone, whatever state they are
made in. Making one sequence after another composes the two permutations, turns add up, two swaps
take each other back, and the inverse moves have the inverse permutation. -/
theorem applyAll_permutes_slots :
    (∀ (moves : List Move) (state : State),
      moves.foldlM applyChecked state = .ok (state.applyAll moves) ∧
        (∀ slot, (state.applyAll moves).symbolAt slot = state.symbolAt (Move.origins moves slot)) ∧
        (state.applyAll moves).symbols.Perm state.symbols) ∧
      (∀ first second,
        Move.origins (first ++ second) = Move.origins first * Move.origins second) ∧
      (∀ top bottom nextTop nextBottom,
        Move.origins [.turn ⟨top, bottom⟩, .turn ⟨nextTop, nextBottom⟩] =
          Move.origins [.turn ⟨top + nextTop, bottom + nextBottom⟩]) ∧
      Move.origins [.swap, .swap] = 1 ∧
      ∀ moves, Move.origins (Move.inverses moves) = (Move.origins moves)⁻¹ := by
  refine ⟨fun moves state => ⟨state.foldlM_applyChecked moves, state.symbolAt_applyAll moves,
    state.symbols_applyAll moves⟩, Move.origins_append, fun top bottom nextTop nextBottom => ?_, ?_,
    Move.origins_inverses⟩
  · exact Turn.origin_mul ⟨top, bottom⟩ ⟨nextTop, nextBottom⟩
  · rw [Move.origins_pair]
    exact (congrArg _ (Move.origin_inverse .swap)).trans (mul_inv_cancel _)

end State

end SquareOne
