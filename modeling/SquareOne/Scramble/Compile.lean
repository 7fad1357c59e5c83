import SquareOne.Puzzle.Wire
import SquareOne.Rewrite.LetterTurns
import SquareOne.Scramble.Inverse
import SquareOne.Scramble.Words
import SquareOne.Shorthand.Catalogue
import SquareOne.Shorthand.Expansion

/-! From raw scramble text to the state it leads to.

Raw text mixes pairs, compact numbers, letter turns and shorthands. Its expansion has numeric pairs
only, with a slash for every swap. Compiling a text makes the moves of its expansion; compiling its
inverse makes the moves of the inverted expansion, which is expanded once more.
-/

namespace SquareOne

namespace Scramble

/-- The expansion of raw text: numeric pairs between slashes. -/
def expand (scramble : Text) : Except Fault Text := do
  let numbered ← separateNumbers (flatten scramble)
  let lettered ← Rewrite.letterTurns.rewrite numbered
  Shorthand.expand Shorthand.catalogue Rewrite.letterTurns lettered

def moves (scramble : Text) : Except Fault (List Move) := do
  return Move.readAll (← expand scramble)

def expandInverse (scramble : Text) : Except Fault Text := do
  return invert (← expand scramble)

def compile (scramble : Text) (start : State) : Except Fault State := do
  return start.applyAll (← moves scramble)

/-- From the solved state this is the case that the scramble solves. -/
def compileInverse (scramble : Text) (start : State) : Except Fault State := do
  compile (← expandInverse scramble) start

end Scramble

end SquareOne
