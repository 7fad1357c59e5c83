import SquareOne.Puzzle.Piece
import SquareOne.Scramble.Compile

/-! Sessions: steps taken one after another on a puzzle that starts out solved. A step that is
refused leaves the puzzle as it was.
-/

namespace SquareOne

inductive Step where
  | compile (scramble : Text)
  | compileInverse (scramble : Text)
  /-- Makes the moves that the text names without being expanded. -/
  | moves (text : Text)
  | invertedMoves (text : Text)
  | obey (instructions : List Instruction)
  /-- Puts the puzzle into the state with the given wire form. -/
  | place (wire : Text)
  | rotate (top bottom : Int)
  | swapHalves
  | expand (scramble : Text)
  | listPieces
  | render (separator : Text)
  /-- Asks whether the puzzle is in the state with the given wire form. -/
  | compare (wire : Text)
deriving DecidableEq, Repr

/-- What a step answers. -/
inductive Answer where
  | done
  | text (text : Text)
  | pieces (listing : PieceListing)
  | verdict (same : Bool)
deriving DecidableEq, Repr

namespace Step

/-- The state after a step, and its answer. -/
def take (state : State) : Step → Except Fault (State × Answer)
  | .compile scramble => do return (← Scramble.compile scramble state, .done)
  | .compileInverse scramble => do return (← Scramble.compileInverse scramble state, .done)
  | .moves text => .ok (state.applyAll (Move.readAll text), .done)
  | .invertedMoves text => .ok (state.applyAll (Move.readAll (Scramble.invert text)), .done)
  | .obey instructions => do return (← state.obeyAll instructions, .done)
  | .place wire => do return (← State.parse wire, .done)
  | .rotate top bottom => .ok (state.rotate top bottom, .done)
  | .swapHalves => .ok (state.swapHalves, .done)
  | .expand scramble => do return (state, .text (← Scramble.expand scramble))
  | .listPieces => .ok (state, .pieces state.pieces)
  | .render separator => do return (state, .text (state.render (← Separator.ofText separator)))
  | .compare wire => do return (state, .verdict (state = (← State.parse wire)))

end Step

namespace Session

/-- The state after each step together with the answer or the fault of the step. -/
def run (state : State) : List Step → List (State × Except Fault Answer)
  | [] => []
  | step :: rest =>
      match step.take state with
      | .ok (next, answer) => (next, .ok answer) :: run next rest
      | .error fault => (state, .error fault) :: run state rest

end Session

end SquareOne
