import SquareOne.Puzzle.State
import SquareOne.Text.LowerCase

/-! A layer read as the pieces that fill it. An edge fills one slot and a corner two; the symbols of
the corners are the odd hexadecimal digits.
-/

namespace SquareOne

inductive PieceKind where
  | edge
  | corner
deriving DecidableEq, Repr

namespace PieceKind

/-- The number of slots that a piece of the kind fills. -/
def span : PieceKind → Nat
  | .edge => 1
  | .corner => 2

def name : PieceKind → Text
  | .edge => "edge".toList
  | .corner => "corner".toList

end PieceKind

structure Piece where
  symbol : Text
  kind : PieceKind
  /-- The first slot that it fills; the slots are counted from one. -/
  position : Nat
deriving DecidableEq, Repr

namespace Piece

def span (piece : Piece) : Nat :=
  piece.kind.span

def cornerSymbols : Text :=
  ['1', '3', '5', '7', '9', 'b', 'd', 'f']

def kindOf : Text → PieceKind
  | [symbol] => if symbol ∈ cornerSymbols then .corner else .edge
  | _ => .edge

/-- Reads pieces from slot `position` on; a corner takes the slot after its symbol with it. -/
def listFrom (position : Nat) : Text → List Piece
  | [] => []
  | [last] => [⟨Text.lower [last], kindOf (Text.lower [last]), position⟩]
  | first :: second :: rest =>
      let symbol := Text.lower [first]
      match kindOf symbol with
      | .corner => ⟨symbol, .corner, position⟩ :: listFrom (position + 2) rest
      | .edge => ⟨symbol, .edge, position⟩ :: listFrom (position + 1) (second :: rest)

end Piece

/-- The pieces of a layer, in the order of its slots. -/
def piecesOf (slots : Text) : List Piece :=
  Piece.listFrom 1 slots

structure PieceListing where
  top : List Piece
  bottom : List Piece
deriving DecidableEq, Repr

def State.pieces (state : State) : PieceListing :=
  ⟨piecesOf state.top.slots, piecesOf state.bottom.slots⟩

end SquareOne
