import SquareOne.Text.Basic

/-! Blanks: the twenty-nine characters that separate words and are trimmed from both ends of a text.
-/

namespace SquareOne.Text

/-- The control characters that end a line, a field or a record, and every space of Unicode that
has a width. -/
def isBlank (char : Char) : Bool :=
  let code := char.toNat
  (0x09 ≤ code && code ≤ 0x0D) || (0x1C ≤ code && code ≤ 0x20) || code == 0x85 || code == 0xA0 ||
    code == 0x1680 || (0x2000 ≤ code && code ≤ 0x200A) || code == 0x2028 || code == 0x2029 ||
    code == 0x202F || code == 0x205F || code == 0x3000

def trim (text : Text) : Text :=
  text.trimBy isBlank

def words (text : Text) : List Text :=
  text.wordsBy isBlank

/-- Every run of blanks becomes one space, also at the two ends. -/
def collapse : Text → Text
  | [] => []
  | char :: rest =>
      if isBlank char && rest.head?.any isBlank then collapse rest
      else (if isBlank char then ' ' else char) :: collapse rest

theorem isBlank_of_isWhitespace {char : Char} (white : char.isWhitespace = true) :
    isBlank char = true := by
  simp only [Char.isWhitespace, Bool.or_eq_true, decide_eq_true_eq] at white
  rcases white with ((rfl | rfl) | rfl) | rfl <;> decide

end SquareOne.Text
