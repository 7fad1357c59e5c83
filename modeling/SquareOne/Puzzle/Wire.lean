import SquareOne.Puzzle.State
import SquareOne.Text.Blank
import SquareOne.Text.Digit

/-! The wire form of a state: the twelve symbols of the top layer, a separator, and the twelve of
the bottom layer, all hexadecimal digits.

Reading is lenient: blanks around the text are ignored, either case is accepted, and a single
separator may be left out or stand anywhere.
-/

namespace SquareOne

inductive Separator where
  | bar
  | slash
deriving DecidableEq, Repr

namespace Separator

def char : Separator → Char
  | .bar => '|'
  | .slash => '/'

def ofText (text : Text) : Except Fault Separator :=
  if text = ['|'] then .ok .bar
  else if text = ['/'] then .ok .slash
  else .error .separator

/-- Whether a character separates layers. -/
def accepts (char : Char) : Bool :=
  char == '|' || char == '/'

end Separator

namespace Layer

/-- Twelve hexadecimal digits as a layer in lower case. -/
def ofDigits (digits : Text) (full : digits.length = slotCount) : Except Fault Layer :=
  if digits.all Text.isHexDigit then .ok ⟨digits.map Char.toLower, by simpa using full⟩
  else .error (.layerDigits digits)

end Layer

namespace State

def render (separator : Separator) (state : State) : Text :=
  state.top.slots ++ separator.char :: state.bottom.slots

/-- Reads a wire form; only the first separator is dropped. -/
def parse (raw : Text) : Except Fault State :=
  let digits := raw.trim.eraseP Separator.accepts
  if enough : digits.length = 2 * slotCount then do
    let top ← Layer.ofDigits (digits.take slotCount) (by simp [enough]; decide)
    let bottom ← Layer.ofDigits (digits.drop slotCount) (by simp [enough]; decide)
    return ⟨top, bottom⟩
  else .error (.stateLength digits.length)

end State

end SquareOne
