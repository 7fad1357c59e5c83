import SquareOne.Text.Printable

/-! Quoted text, as it stands in messages: between quotes, on one line, with every character that
is not printable given by its code.
-/

namespace SquareOne.Text

/-- The last `width` hexadecimal digits of `code`, in lower case. -/
def hexDigits (width code : Nat) : Text :=
  match width with
  | 0 => []
  | width + 1 => hexDigits width (code / 16) ++ [Nat.digitChar (code % 16)]

/-- Single quotes, unless the text holds a single quote and no double quote. -/
def quoteMark (text : Text) : Char :=
  if text.contains '\x27' && !text.contains '\x22' then '\x22' else '\x27'

/-- One character as it is written between the quotes `mark`. -/
def escapeChar (mark char : Char) : Text :=
  if char = mark || char = '\\' then ['\\', char]
  else if char = '\n' then ['\\', 'n']
  else if char = '\r' then ['\\', 'r']
  else if char = '\t' then ['\\', 't']
  else if isPrintable char then [char]
  else if char.toNat < 0x100 then '\\' :: 'x' :: hexDigits 2 char.toNat
  else if char.toNat < 0x10000 then '\\' :: 'u' :: hexDigits 4 char.toNat
  else '\\' :: 'U' :: hexDigits 8 char.toNat

def quoted (text : Text) : Text :=
  let mark := quoteMark text
  mark :: text.flatMap (escapeChar mark) ++ [mark]

theorem length_hexDigits (width code : Nat) : (hexDigits width code).length = width := by
  induction width generalizing code with
  | zero => rfl
  | succ width ih => simp [hexDigits, ih]

end SquareOne.Text
