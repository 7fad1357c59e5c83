import SquareOne.Puzzle.Move
import SquareOne.Text.Blank
import SquareOne.Text.Numeral

/-! Scramble text read as moves.

A slash is a swap wherever it stands. Any other word between blanks and slashes is a turn if it
holds two numerals with one comma between them, parentheses being ignored; words that are neither
are passed over.
-/

namespace SquareOne

def isParenthesis (char : Char) : Bool :=
  char == '(' || char == ')'

namespace Scramble

/-- A text without its parentheses. -/
def bare (text : Text) : Text :=
  text.filter fun char => !isParenthesis char

section Bare

variable {char : Char} {text : Text}

@[simp] theorem bare_nil : bare [] = [] := rfl

theorem bare_cons (kept : isParenthesis char = false) (rest : Text) :
    bare (char :: rest) = char :: bare rest :=
  List.filter_cons_of_pos (by simp [kept])

theorem bare_append (first second : Text) : bare (first ++ second) = bare first ++ bare second :=
  List.filter_append ..

theorem mem_bare : char ∈ bare text ↔ char ∈ text ∧ isParenthesis char = false := by
  simp [bare]

theorem bare_eq_self (kept : ∀ char ∈ text, isParenthesis char = false) : bare text = text :=
  List.filter_eq_self.mpr fun char member => by simp [kept char member]

@[simp] theorem bare_bare (text : Text) : bare (bare text) = bare text :=
  bare_eq_self fun _ member => (mem_bare.mp member).2

end Bare

end Scramble

namespace Turn

/-- The turn that a word names: two numerals with one comma between them. -/
def read? (word : Text) : Option Turn :=
  match (Scramble.bare word).splitOn ',' with
  | [top, bottom] => do return ⟨← Numeral.read? (Text.trim top), ← Numeral.read? (Text.trim bottom)⟩
  | _ => none

theorem read?_bare (word : Text) : read? (Scramble.bare word) = read? word := by
  rw [read?, read?, Scramble.bare_bare]

def write (turn : Turn) : Text :=
  Numeral.write turn.top ++ ',' :: Numeral.write turn.bottom

end Turn

namespace Move

def read? (word : Text) : Option Move :=
  if word = ['/'] then some .swap else (Turn.read? word).map .turn

/-- The words of a scramble; every slash is a word of its own. -/
def wordsOf (scramble : Text) : List Text :=
  (scramble.replaceChar '/' [' ', '/', ' ']).words

def readAll (scramble : Text) : List Move :=
  (wordsOf scramble).filterMap read?

def write : Move → Text
  | .turn offsets => offsets.write
  | .swap => ['/']

@[simp] theorem readAll_nil : readAll [] = [] := rfl

end Move

end SquareOne
