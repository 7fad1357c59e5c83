import SquareOne.Rewrite.Fixpoint
import SquareOne.Scramble.Moves
import SquareOne.Shorthand.Table

/-! Expanding shorthands, down to numeric pairs between slashes.

The words of the text stand between single spaces, and each space is a swap. The words are scanned
from the left together with the alignment that the turns so far lead to, and every shorthand is
replaced by its sequence for that alignment. A text without shorthands needs no scan.
-/

namespace SquareOne.Shorthand

/-- The turns in a sequence of letter turns, pairs and swaps. -/
def turnsOf (rules : Rewrite.Table) (fragment : Text) : Except Fault (List Turn) := do
  let settled ← rules.rewrite (Text.joinWith ' ' (fragment.replaceChar '/' [' ']).words)
  return Move.turns (Move.readAll settled)

/-- Whether a word needs no look-up among the shorthands: it is empty, it holds a comma, or the
rewrite rules replace it. -/
def isPlain (rules : Rewrite.Table) (word : Text) : Bool :=
  word.isEmpty || word.contains ',' || rules.hasWord word

/-- A word that the scan has passed: what stands in its place, and the alignment after it. -/
structure Scanned where
  text : Text
  alignment : Alignment
deriving DecidableEq, Repr

def scanWord (table : Table) (rules : Rewrite.Table) (alignment : Alignment) (word : Text) :
    Except Fault Scanned :=
  if word.isEmpty then .ok ⟨word, alignment⟩
  else if word.contains ',' then .ok ⟨word, alignment.track (Turn.read? word).toList⟩
  else if rules.hasWord word then do
    let turns ← turnsOf rules word
    return ⟨word, alignment.track turns⟩
  else do
    let fragment ← table.lookup word alignment
    let turns ← turnsOf rules fragment
    return ⟨fragment, alignment.track turns⟩

def scan (table : Table) (rules : Rewrite.Table) (alignment : Alignment) :
    List Text → Except Fault (List Text)
  | [] => .ok []
  | word :: rest => do
      let scanned ← scanWord table rules alignment word
      let others ← scan table rules scanned.alignment rest
      return scanned.text :: others

/-- Puts `char` before a text in which no space stands next to a slash, and keeps it so. -/
def pushClosed (char : Char) (closed : Text) : Text :=
  if char = '/' then '/' :: closed.dropWhile (· == ' ')
  else if char = ' ' && closed.head? == some '/' then closed
  else char :: closed

/-- Drops every space next to a slash. -/
def closeUp (text : Text) : Text :=
  text.foldr pushClosed []

/-- Puts a turn by nothing between two slashes that stand side by side. -/
def separateSwaps : Text → Text
  | '/' :: '/' :: rest => ['/', '0', ',', '0', '/'] ++ separateSwaps rest
  | char :: rest => char :: separateSwaps rest
  | [] => []

/-- The words of a scanned text, with the slashes of its sequences as single spaces. -/
def openSwaps (text : Text) : Text :=
  (separateSwaps (closeUp text)).replaceChar '/' [' ']

/-- Rewrites a text and makes every space in it a slash. -/
def canonical (rules : Rewrite.Table) (text : Text) : Except Fault Text := do
  let settled ← rules.rewrite text
  return settled.replaceChar ' ' ['/']

/-- The expansion by way of the scan, whether the text needs it or not. -/
def expandByScan (table : Table) (rules : Rewrite.Table) (text : Text) : Except Fault Text := do
  let words ← scan table rules .square (text.splitOn ' ')
  canonical rules (openSwaps (Text.joinWith ' ' words))

def expand (table : Table) (rules : Rewrite.Table) (text : Text) : Except Fault Text :=
  if (text.splitOn ' ').all (isPlain rules) then canonical rules text
  else expandByScan table rules text

end SquareOne.Shorthand
