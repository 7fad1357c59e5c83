import SquareOne.Fault
import SquareOne.Text.Blank
import SquareOne.Text.Digit

/-! Colours given by three pairs of hexadecimal digits, with or without a number sign before them.

A pair need not be two hexadecimal digits: a decimal digit of any script will do for a digit, and
one of the two places may be left blank or hold a sign, so long as the pair names a number.
-/

namespace SquareOne.Colour

def isPairDigit (char : Char) : Bool :=
  Text.isHexDigit char || (Text.digitValue? char).isSome

/-- The blanks that a pair may hold: all but the four that separate records. -/
def isPairBlank (char : Char) : Bool :=
  Text.isBlank char && !(0x1C ≤ char.toNat && char.toNat ≤ 0x1F)

def isSign (char : Char) : Bool :=
  char == '+' || char == '-'

/-- Whether two characters name a number to the base sixteen. -/
def isPair (first second : Char) : Bool :=
  (isPairDigit second && (isPairDigit first || isPairBlank first || isSign first)) ||
    (isPairDigit first && isPairBlank second)

/-- The text without blanks around it and without a number sign at its front. -/
def bare (colour : Text) : Text :=
  match colour.trim with
  | '#' :: digits => digits
  | digits => digits

/-- Whether a text names a colour. -/
def isHex (colour : Text) : Bool :=
  match bare colour with
  | [red, red', green, green', blue, blue'] =>
      isPair red red' && isPair green green' && isPair blue blue'
  | _ => false

/-- Refuses a text that names no colour. -/
def check (colour : Text) : Except Fault Unit :=
  if isHex colour then .ok () else .error (.colour colour)

end SquareOne.Colour
