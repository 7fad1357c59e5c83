import SquareOne.Fault
import SquareOne.Scramble.Moves

/-! Raw scramble text made into words with single spaces between them.

Slashes of both kinds become spaces and parentheses are left out. A compact number, which names two
offsets without a comma, is then cut into a pair: `-23` is `-2,3` and `10` is `1,0`.
-/

namespace SquareOne.Scramble

/-- A slash of either kind as a space. -/
def openSlash (char : Char) : Char :=
  if char = '/' || char = '\\' then ' ' else char

/-- Slashes become spaces, parentheses go away, and every run of blanks becomes one space. A space
at either end stays: it stands for a swap there. -/
def flatten (scramble : Text) : Text :=
  Text.collapse (bare (scramble.map openSlash))

/-- A compact number: ASCII digits, and at most one minus among them. -/
def isCompact (word : Text) : Bool :=
  Numeral.isDigits (word.erase '-')

/-- The two halves of a compact number of one to four characters. A leading minus belongs to the
first half, and a half that is missing is zero. -/
def halves? : Text → Option (Text × Text)
  | [first] => some ([first], ['0'])
  | ['-', first] => some (['-', first], ['0'])
  | [first, second] => some ([first], [second])
  | ['-', first, second] => some (['-', first], [second])
  | [first, second, third] => some ([first], [second, third])
  | [first, second, third, fourth] => some ([first, second], [third, fourth])
  | _ => none

/-- Cuts the word at `position` into a pair if it is a compact number. -/
def separateWord (word : Text) (position : Nat) : Except Fault Text :=
  if isCompact word then
    match halves? word with
    | some (first, second) => .ok (first ++ ',' :: second)
    | none => .error (.unrecognizedWord word position)
  else .ok word

/-- Cuts every compact number; the words between single spaces are counted from zero. -/
def separateNumbers (scramble : Text) : Except Fault Text := do
  let words ← ((scramble.splitOn ' ').zipIdx).mapM fun (word, position) =>
    separateWord word position
  return Text.joinWith ' ' words

end SquareOne.Scramble
