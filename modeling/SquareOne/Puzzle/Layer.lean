import SquareOne.Fault

/-! One layer of the puzzle: twelve slots in clockwise order, each with the symbol of the piece that
fills it.

`rotateSlots` and `swapSlots` act on any texts; on layers they are total and keep the twelve slots.
-/

namespace SquareOne

def slotCount : Nat := 12

/-- The slots of either layer that a swap takes into the new top layer. -/
def keptSlots : Nat := 6

/-- Rotates to the left by `places`, which counts modulo twelve whatever the length. -/
def rotateSlots (slots : Text) (places : Int) : Text :=
  let count := (places % slotCount).toNat
  slots.drop count ++ slots.take count

/-- The new top and bottom when two layers trade the slots that a swap moves: the front halves meet
in the top layer and the back halves in the bottom layer. -/
def swapSlots (top bottom : Text) : Text × Text :=
  (top.take keptSlots ++ bottom.take keptSlots, top.drop keptSlots ++ bottom.drop keptSlots)

/-- `swapSlots` for two layers of twelve slots, refused for any other lengths. -/
def exchangeSlots (top bottom : Text) : Except Fault (Text × Text) :=
  if top.length = slotCount ∧ bottom.length = slotCount then .ok (swapSlots top bottom)
  else .error (.swapLengths top.length bottom.length)

theorem length_rotateSlots (slots : Text) (places : Int) :
    (rotateSlots slots places).length = slots.length := by
  simp only [rotateSlots, List.length_append, List.length_drop, List.length_take]
  omega

theorem length_swapSlots {top bottom : Text}
    (topFull : top.length = slotCount) (bottomFull : bottom.length = slotCount) :
    (swapSlots top bottom).1.length = slotCount ∧
      (swapSlots top bottom).2.length = slotCount := by
  simp [swapSlots, topFull, bottomFull, slotCount, keptSlots]

/-- A full layer. -/
@[ext] structure Layer where
  slots : Text
  full : slots.length = slotCount
deriving DecidableEq, Repr

namespace Layer

def rotate (layer : Layer) (places : Int) : Layer :=
  ⟨rotateSlots layer.slots places, (length_rotateSlots _ _).trans layer.full⟩

def front (top bottom : Layer) : Layer :=
  ⟨(swapSlots top.slots bottom.slots).1, (length_swapSlots top.full bottom.full).1⟩

def back (top bottom : Layer) : Layer :=
  ⟨(swapSlots top.slots bottom.slots).2, (length_swapSlots top.full bottom.full).2⟩

end Layer

end SquareOne
