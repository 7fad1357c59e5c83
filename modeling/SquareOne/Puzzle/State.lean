import SquareOne.Puzzle.Layer

/-! The state of the puzzle and what moves do to it.

Moves are total on states. An instruction may also be something that is no move; carrying out
instructions stops at the first of those.
-/

namespace SquareOne

@[ext] structure State where
  top : Layer
  bottom : Layer
deriving DecidableEq, Repr

namespace State

def solved : State where
  top := ⟨['0', '1', '1', '2', '3', '3', '4', '5', '5', '6', '7', '7'], rfl⟩
  bottom := ⟨['9', '9', '8', 'b', 'b', 'a', 'd', 'd', 'c', 'f', 'f', 'e'], rfl⟩

/-- The state with the given layers, the top one being checked first. -/
def ofSlots (top bottom : Text) : Except Fault State :=
  if topFull : top.length = slotCount then
    if bottomFull : bottom.length = slotCount then .ok ⟨⟨top, topFull⟩, ⟨bottom, bottomFull⟩⟩
    else .error (.layerLength .bottom bottom.length)
  else .error (.layerLength .top top.length)

def rotate (state : State) (top bottom : Int) : State :=
  ⟨state.top.rotate top, state.bottom.rotate bottom⟩

def swapHalves (state : State) : State :=
  ⟨state.top.front state.bottom, state.top.back state.bottom⟩

def apply (state : State) : Move → State
  | .turn offsets => state.rotate offsets.top offsets.bottom
  | .swap => state.swapHalves

/-- Makes all `moves`, the first one first. -/
def applyAll (state : State) (moves : List Move) : State :=
  moves.foldl apply state

@[simp] theorem applyAll_nil (state : State) : state.applyAll [] = state := rfl

@[simp] theorem applyAll_cons (state : State) (move : Move) (rest : List Move) :
    state.applyAll (move :: rest) = (state.apply move).applyAll rest := rfl

theorem applyAll_append (state : State) (first second : List Move) :
    state.applyAll (first ++ second) = (state.applyAll first).applyAll second :=
  List.foldl_append

end State

/-- What a caller may ask to be carried out: a move, or something that is none. -/
inductive Instruction where
  | move (move : Move)
  | foreign (label : Text)
deriving DecidableEq, Repr

namespace State

def obey (state : State) : Instruction → Except Fault State
  | .move move => .ok (state.apply move)
  | .foreign label => .error (.foreignMove label)

/-- Carries out all instructions, or none when one of them is no move. -/
def obeyAll (state : State) (instructions : List Instruction) : Except Fault State :=
  instructions.foldlM obey state

/-- The states passed through, and the fault at which the instructions stopped. -/
def trace (state : State) : List Instruction → List State × Option Fault
  | [] => ([state], none)
  | instruction :: rest =>
      match state.obey instruction with
      | .ok next =>
          let (states, fault) := next.trace rest
          (state :: states, fault)
      | .error fault => ([state], some fault)

end State

end SquareOne
