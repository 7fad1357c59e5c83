/-! The moves of the puzzle: turns of the two layers, and the swap that exchanges their halves. -/

namespace SquareOne

/-- Turns the top layer by `top` slots and the bottom layer by `bottom` slots. -/
structure Turn where
  top : Int
  bottom : Int
deriving DecidableEq, Repr

inductive Move where
  | turn (offsets : Turn)
  /-- Exchanges six slots of the top layer with six of the bottom layer. -/
  | swap
deriving DecidableEq, Repr

namespace Turn

def negate (turn : Turn) : Turn :=
  ⟨-turn.top, -turn.bottom⟩

@[simp] theorem negate_negate (turn : Turn) : turn.negate.negate = turn := by
  simp [negate]

end Turn

namespace Move

/-- The move that takes this one back; a swap takes itself back. -/
def inverse : Move → Move
  | .turn offsets => .turn offsets.negate
  | .swap => .swap

def turn? : Move → Option Turn
  | .turn offsets => some offsets
  | .swap => none

@[simp] theorem inverse_inverse (move : Move) : move.inverse.inverse = move := by
  cases move <;> simp [inverse]

end Move

/-- The moves that take back `moves`, the last first. -/
def Move.inverses (moves : List Move) : List Move :=
  (moves.map Move.inverse).reverse

def Move.turns (moves : List Move) : List Turn :=
  moves.filterMap Move.turn?

end SquareOne
