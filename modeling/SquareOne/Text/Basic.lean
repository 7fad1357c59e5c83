/-! Text as a list of characters, cut into pieces and joined again.

Cutting is the standard `List.splitOn` and `List.splitOnP`; this module adds the words between the
cuts, trimming, joining, and the order in which listings are sorted.
-/

namespace SquareOne

/-- Text is handled as its sequence of code points. -/
abbrev Text := List Char

namespace Text

/-- The non-empty pieces between the characters that `isGap` accepts. -/
def wordsBy (isGap : Char → Bool) (text : Text) : List Text :=
  (text.splitOnP isGap).filter fun word => !word.isEmpty

/-- Drops the characters that `isGap` accepts from both ends. -/
def trimBy (isGap : Char → Bool) (text : Text) : Text :=
  ((text.dropWhile isGap).reverse.dropWhile isGap).reverse

/-- Joins `pieces` with one `separator` between neighbours. -/
def joinWith (separator : Char) (pieces : List Text) : Text :=
  [separator].intercalate pieces

/-- Puts `replacement` in the place of every `found`. -/
def replaceChar (text : Text) (found : Char) (replacement : Text) : Text :=
  text.flatMap fun char => if char = found then replacement else [char]

/-- Lexicographic order by code point, each text preceding itself. -/
def precedes (left right : Text) : Bool :=
  !List.lex right left fun first second => first.toNat < second.toNat

/-- A property of all characters of a text, decided on the text and not on all characters. -/
theorem forall_mem_of_all {property : Char → Prop} [DecidablePred property] {text : Text}
    (all : text.all (fun char => decide (property char)) = true) :
    ∀ char ∈ text, property char := by
  simpa using all

theorem wordsBy_ne_nil {isGap : Char → Bool} {text word : Text}
    (member : word ∈ wordsBy isGap text) : word ≠ [] := by
  simpa using (List.mem_filter.mp member).2

@[simp] theorem trimBy_nil (isGap : Char → Bool) : trimBy isGap [] = [] := rfl

@[simp] theorem joinWith_singleton (separator : Char) (piece : Text) :
    joinWith separator [piece] = piece := by
  simp [joinWith]

/-- Cutting at a separator and joining with it gives the text back. -/
theorem joinWith_splitOn (separator : Char) (text : Text) :
    joinWith separator (text.splitOn separator) = text := by
  simp [joinWith, List.intercalate_splitOn]

end Text

end SquareOne
