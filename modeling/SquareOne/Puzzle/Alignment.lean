import SquareOne.Puzzle.Move
import SquareOne.Text.Basic

/-! The alignment of the two layers: whether each has been turned out of line with the cut of the
puzzle. A layer is in line again after every third slot, and the meaning of some shorthands depends
on it.
-/

namespace SquareOne

/-- For each layer, whether it stands out of line. -/
structure Alignment where
  top : Bool
  bottom : Bool
deriving DecidableEq, Repr

namespace Alignment

def square : Alignment :=
  ⟨false, false⟩

/-- A turn by a number of slots that three does not divide moves a layer into line or out of it. -/
def advance (alignment : Alignment) (turn : Turn) : Alignment :=
  ⟨alignment.top ^^ (turn.top % 3 != 0), alignment.bottom ^^ (turn.bottom % 3 != 0)⟩

def track (start : Alignment) (turns : List Turn) : Alignment :=
  turns.foldl advance start

/-- The alignments passed through on the way, the first and the last included. -/
def trace (start : Alignment) : List Turn → List Alignment
  | [] => [start]
  | turn :: rest => start :: (start.advance turn).trace rest

/-- The alignment as it is written after the name of a shorthand. -/
def suffix (alignment : Alignment) : Text :=
  (if alignment.top then ['1'] else ['0']) ++ (if alignment.bottom then ['-', '1'] else ['0'])

@[simp] theorem track_nil (start : Alignment) : start.track [] = start := rfl

@[simp] theorem track_cons (start : Alignment) (turn : Turn) (rest : List Turn) :
    start.track (turn :: rest) = (start.advance turn).track rest := rfl

theorem track_append (start : Alignment) (first second : List Turn) :
    start.track (first ++ second) = (start.track first).track second :=
  List.foldl_append

theorem suffix_injective {left right : Alignment} (same : left.suffix = right.suffix) :
    left = right := by
  revert left right
  have distinct : ∀ a b c d : Bool, suffix ⟨a, b⟩ = suffix ⟨c, d⟩ →
      Alignment.mk a b = Alignment.mk c d := by decide
  exact fun {left right} => distinct left.top left.bottom right.top right.bottom

end Alignment

end SquareOne
