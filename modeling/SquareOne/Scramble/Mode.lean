import SquareOne.Scramble.Compile

/-! The three ways in which a text names a state: by a scramble that leads to it, by an algorithm
that solves it, and by its wire form.
-/

namespace SquareOne

inductive Mode where
  /-- The state that the text scrambles the solved puzzle to. -/
  | scramble
  /-- The state that the text solves. -/
  | inverse
  /-- The state of which the text is the wire form. -/
  | hex
deriving DecidableEq, Repr

namespace Mode

def name : Mode → Text
  | .scramble => "scramble".toList
  | .inverse => "inverse".toList
  | .hex => "hex".toList

def ofName? (name : Text) : Option Mode :=
  [Mode.scramble, .inverse, .hex].find? fun mode => mode.name = name

def ofName (name : Text) : Except Fault Mode :=
  match ofName? name with
  | some mode => .ok mode
  | none => .error (.inputMode name)

end Mode

namespace State

/-- The state that a text names. -/
def resolve (mode : Mode) (text : Text) : Except Fault State :=
  match mode with
  | .scramble => Scramble.compile text solved
  | .inverse => Scramble.compileInverse text solved
  | .hex => parse text

end State

end SquareOne
