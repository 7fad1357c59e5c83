import SquareOne.Proofs.Puzzle.SlotPermutation
import SquareOne.Puzzle.Piece

/-! How pieces fill the slots of a layer. Slots are tiled when they hold one piece after another,
every corner with both of its halves. A layer is closed to a ring, so that a turn may leave a corner
with one half in the last slot and the other in the first. Turns keep the pieces whole, and so do
swaps that find a cut between pieces.
-/

namespace SquareOne

def Piece.edgeSymbols : Text :=
  ['0', '2', '4', '6', '8', 'a', 'c', 'e']

theorem Piece.not_corner_of_edge :
    ∀ symbol ∈ Piece.edgeSymbols, symbol ∉ Piece.cornerSymbols :=
  Text.forall_mem_of_all (by decide)

inductive Tiled : Text → Prop
  | nil : Tiled []
  | edge {symbol : Char} {rest : Text} (isEdge : symbol ∈ Piece.edgeSymbols)
      (behind : Tiled rest) : Tiled (symbol :: rest)
  | corner {symbol : Char} {rest : Text} (isCorner : symbol ∈ Piece.cornerSymbols)
      (behind : Tiled rest) : Tiled (symbol :: symbol :: rest)

namespace Tiled

variable {front back : Text}

theorem append (first : Tiled front) (second : Tiled back) : Tiled (front ++ back) := by
  induction first with
  | nil => exact second
  | edge isEdge _ ih => exact .edge isEdge ih
  | corner isCorner _ ih => exact .corner isCorner ih

/-- A cut falls between two pieces, or between the halves of one corner. -/
theorem cut (tiled : Tiled (front ++ back)) :
    (Tiled front ∧ Tiled back) ∨
      ∃ symbol before after, symbol ∈ Piece.cornerSymbols ∧ front = before ++ [symbol] ∧
        back = symbol :: after ∧ Tiled before ∧ Tiled after := by
  generalize whole : front ++ back = slots at tiled
  induction tiled generalizing front with
  | nil =>
      obtain ⟨rfl, rfl⟩ := List.append_eq_nil_iff.mp whole
      exact .inl ⟨.nil, .nil⟩
  | @edge symbol rest isEdge behind ih =>
      cases front with
      | nil =>
          obtain rfl : back = symbol :: rest := whole
          exact .inl ⟨.nil, .edge isEdge behind⟩
      | cons first front =>
          rw [List.cons_append, List.cons.injEq] at whole
          obtain ⟨rfl, others⟩ := whole
          rcases ih others with ⟨before, after⟩ | ⟨half, before, after, isCorner, rfl, rest⟩
          · exact .inl ⟨.edge isEdge before, after⟩
          · exact .inr ⟨half, first :: before, after, isCorner, rfl, rest.1,
              .edge isEdge rest.2.1, rest.2.2⟩
  | @corner symbol rest isCorner behind ih =>
      rcases front with - | ⟨first, - | ⟨second, front⟩⟩
      · obtain rfl : back = symbol :: symbol :: rest := whole
        exact .inl ⟨.nil, .corner isCorner behind⟩
      · obtain ⟨rfl, rfl⟩ := List.cons.inj whole
        exact .inr ⟨first, [], rest, isCorner, rfl, rfl, .nil, behind⟩
      · rw [List.cons_append, List.cons_append, List.cons.injEq, List.cons.injEq] at whole
        obtain ⟨rfl, rfl, others⟩ := whole
        rcases ih others with ⟨before, after⟩ | ⟨half, before, after, isHalf, rfl, rest⟩
        · exact .inl ⟨.corner isCorner before, after⟩
        · exact .inr ⟨half, second :: second :: before, after, isHalf, rfl, rest.1,
            .corner isCorner rest.2.1, rest.2.2⟩

end Tiled

/-- Slots closed to a ring of pieces: they are tiled, or one corner has its halves at the ends. -/
inductive Ring : Text → Prop
  | tiled {slots : Text} (tiled : Tiled slots) : Ring slots
  | parted {symbol : Char} {inner : Text} (isCorner : symbol ∈ Piece.cornerSymbols)
      (tiled : Tiled inner) : Ring (symbol :: (inner ++ [symbol]))

theorem Ring.rotate {front back : Text} (ring : Ring (front ++ back)) : Ring (back ++ front) := by
  generalize whole : front ++ back = slots at ring
  cases ring with
  | tiled tiled =>
      subst whole
      rcases tiled.cut with ⟨before, after⟩ | ⟨symbol, before, after, isCorner, rfl, rfl, tiles⟩
      · exact .tiled (after.append before)
      · rw [List.cons_append, ← List.append_assoc]
        exact .parted isCorner (tiles.2.append tiles.1)
  | @parted symbol inner isCorner tiled =>
      rcases front with - | ⟨first, front⟩
      · rw [List.nil_append] at whole
        rw [whole, List.append_nil]
        exact .parted isCorner tiled
      rcases List.eq_nil_or_concat back with rfl | ⟨back, last, rfl⟩
      · rw [List.append_nil] at whole
        rw [List.nil_append, whole]
        exact .parted isCorner tiled
      rw [List.concat_eq_append] at whole ⊢
      rw [List.cons_append, List.cons.injEq, ← List.append_assoc] at whole
      obtain ⟨rfl, others⟩ := whole
      obtain ⟨rfl, same⟩ := List.append_inj' others rfl
      obtain rfl : last = first := List.singleton_inj.mp same
      -- The halves of the corner at the two ends come together.
      rw [List.append_assoc, List.singleton_append]
      rcases tiled.cut with ⟨before, after⟩ | ⟨half, before, after, isHalf, rfl, rfl, tiles⟩
      · exact .tiled (after.append (.corner isCorner before))
      · have inner : Tiled (after ++ last :: last :: before) :=
          tiles.2.append (.corner isCorner tiles.1)
        simpa using Ring.parted isHalf inner

namespace Layer

variable {layer : Layer}

theorem symbolAt_eq_iff {place : ZMod 12} {symbol : Char} :
    layer.symbolAt place = symbol ↔ layer.slots[place.val]? = some symbol := by
  have within : place.val < layer.slots.length := by
    rw [layer.full]
    exact ZMod.val_lt place
  rw [List.getElem?_eq_getElem within, Option.some_inj]
  rfl

/-- One corner has its halves in the slot at `place` and in the next one. -/
def CornerAt (layer : Layer) (place : ZMod 12) : Prop :=
  layer.symbolAt place ∈ Piece.cornerSymbols ∧ layer.symbolAt (place + 1) = layer.symbolAt place

instance (layer : Layer) (place : ZMod 12) : Decidable (layer.CornerAt place) :=
  inferInstanceAs (Decidable (_ ∧ _))

/-- Neither of the two cuts at which a swap takes a layer apart parts a corner. -/
def Separable (layer : Layer) : Prop :=
  ¬layer.CornerAt 5 ∧ ¬layer.CornerAt 11

instance (layer : Layer) : Decidable layer.Separable :=
  inferInstanceAs (Decidable (_ ∧ _))

theorem cornerAt_seam {symbol : Char} {inner : Text} (isCorner : symbol ∈ Piece.cornerSymbols)
    (slots : layer.slots = symbol :: (inner ++ [symbol])) : layer.CornerAt 11 := by
  have full := layer.full
  rw [slots, List.length_cons, List.length_append, List.length_singleton, slotCount] at full
  have last : layer.symbolAt 11 = symbol := by
    apply symbolAt_eq_iff.mpr
    have place : (11 : ZMod 12).val = inner.length + 1 := by
      rw [Nat.add_right_cancel full]
      rfl
    rw [slots, place]
    simp
  have first : layer.symbolAt (11 + 1) = symbol := by
    apply symbolAt_eq_iff.mpr
    rw [slots]
    rfl
  exact ⟨last ▸ isCorner, first.trans last.symm⟩

theorem cornerAt_middle {symbol : Char} {before after : Text}
    (isCorner : symbol ∈ Piece.cornerSymbols)
    (front : layer.slots.take keptSlots = before ++ [symbol])
    (back : layer.slots.drop keptSlots = symbol :: after) : layer.CornerAt 5 := by
  have count : before.length = 5 := by
    have length := congrArg List.length front
    rw [List.length_take, layer.full, List.length_append, List.length_singleton] at length
    exact (Nat.succ.inj length).symm
  have slots : layer.slots = before ++ symbol :: symbol :: after := by
    rw [← List.take_append_drop keptSlots layer.slots, front, back, List.append_assoc]
    rfl
  have sixth : layer.symbolAt 5 = symbol := by
    apply symbolAt_eq_iff.mpr
    rw [slots, show (5 : ZMod 12).val = before.length from count.symm]
    simp
  have seventh : layer.symbolAt (5 + 1) = symbol := by
    apply symbolAt_eq_iff.mpr
    rw [slots, show (5 + 1 : ZMod 12).val = before.length + 1 by rw [count]; rfl]
    simp
  exact ⟨sixth ▸ isCorner, seventh.trans sixth.symm⟩

theorem rotate_ring (ring : Ring layer.slots) (places : Int) :
    Ring (layer.rotate places).slots := by
  apply Ring.rotate
  rw [List.take_append_drop]
  exact ring

/-- The two halves of a layer that a swap can take apart are tiled. -/
theorem tiled_halves (ring : Ring layer.slots) (separable : layer.Separable) :
    Tiled (layer.slots.take keptSlots) ∧ Tiled (layer.slots.drop keptSlots) := by
  have tiled : Tiled layer.slots := by
    generalize same : layer.slots = slots at ring
    cases ring with
    | tiled tiled => exact tiled
    | parted isCorner _ => exact absurd (cornerAt_seam isCorner same) separable.2
  rw [← List.take_append_drop keptSlots layer.slots] at tiled
  rcases tiled.cut with halves | ⟨symbol, before, after, isCorner, front, back, -⟩
  · exact halves
  · exact absurd (cornerAt_middle isCorner front back) separable.1

end Layer

/-- A swap needs both layers to come apart; a turn is always possible. -/
def Move.LegalIn (state : State) : Move → Prop
  | .turn _ => True
  | .swap => state.top.Separable ∧ state.bottom.Separable

instance (state : State) : DecidablePred (Move.LegalIn state)
  | .turn _ => inferInstanceAs (Decidable True)
  | .swap => inferInstanceAs (Decidable (_ ∧ _))

namespace State

/-- Every move is legal in the state that the moves before it lead to. -/
def LegalFrom (state : State) : List Move → Prop
  | [] => True
  | move :: rest => move.LegalIn state ∧ (state.apply move).LegalFrom rest

instance decidableLegalFrom (state : State) :
    (moves : List Move) → Decidable (state.LegalFrom moves)
  | [] => inferInstanceAs (Decidable True)
  | move :: rest =>
      have := decidableLegalFrom (state.apply move) rest
      inferInstanceAs (Decidable (_ ∧ _))

structure Rings (state : State) : Prop where
  top : Ring state.top.slots
  bottom : Ring state.bottom.slots

theorem rings_solved : solved.Rings where
  top := .tiled <| .edge (by decide) <| .corner (by decide) <| .edge (by decide) <|
    .corner (by decide) <| .edge (by decide) <| .corner (by decide) <| .edge (by decide) <|
    .corner (by decide) .nil
  bottom := .tiled <| .corner (by decide) <| .edge (by decide) <| .corner (by decide) <|
    .edge (by decide) <| .corner (by decide) <| .edge (by decide) <| .corner (by decide) <|
    .edge (by decide) .nil

/-- A legal move keeps the pieces whole. -/
theorem rings_apply {state : State} {move : Move} (rings : state.Rings)
    (legal : move.LegalIn state) : (state.apply move).Rings := by
  cases move with
  | turn offsets =>
      exact ⟨Layer.rotate_ring rings.top offsets.top, Layer.rotate_ring rings.bottom offsets.bottom⟩
  | swap =>
      obtain ⟨topFront, topBack⟩ := Layer.tiled_halves rings.top legal.1
      obtain ⟨bottomFront, bottomBack⟩ := Layer.tiled_halves rings.bottom legal.2
      exact ⟨.tiled (topFront.append bottomFront), .tiled (topBack.append bottomBack)⟩

theorem rings_applyAll {state : State} {moves : List Move} (rings : state.Rings)
    (legal : state.LegalFrom moves) : (state.applyAll moves).Rings := by
  induction moves generalizing state with
  | nil => exact rings
  | cons move rest ih => exact ih (rings_apply rings legal.1) legal.2

end State

end SquareOne
