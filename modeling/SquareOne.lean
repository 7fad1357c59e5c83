import SquareOne.Text.Basic
import SquareOne.Text.Blank
import SquareOne.Text.Numeral
import SquareOne.Text.LowerCase
import SquareOne.Text.Quoted
import SquareOne.Text.Digit
import SquareOne.Fault
import SquareOne.Puzzle.Wire
import SquareOne.Puzzle.Piece
import SquareOne.Scramble.Inverse
import SquareOne.Scramble.Words
import SquareOne.Rewrite.Fixpoint
import SquareOne.Rewrite.LetterTurns
import SquareOne.Shorthand.Catalogue
import SquareOne.Shorthand.Expansion
import SquareOne.Session
import SquareOne.Colour.Sticker
import SquareOne.Service
import SquareOne.Main
import SquareOne.Proofs.Dictionary
import SquareOne.Proofs.Rewrite.WordRules
import SquareOne.Proofs.Rewrite.Settling
import SquareOne.Proofs.Rewrite.LetterExpansion
import SquareOne.Proofs.Text.Words
import SquareOne.Proofs.Scramble.Layout
import SquareOne.Proofs.Shorthand.Blocks
import SquareOne.Proofs.Scramble.Reading
import SquareOne.Proofs.Scramble.Letters
import SquareOne.Proofs.Shorthand.Scan
import SquareOne.Proofs.Scramble.CompactNumbers
import SquareOne.Proofs.Shorthand.Expansion
import SquareOne.Proofs.Scramble.WordLevel
import SquareOne.Proofs.Scramble.Canonical
import SquareOne.Proofs.Puzzle.MoveLaws
import SquareOne.Proofs.Text.Trim
import SquareOne.Proofs.Scramble.Reversal
import SquareOne.Proofs.Shorthand.Concat
import SquareOne.Proofs.Scramble.Continuation
import SquareOne.Proofs.Scramble.Literal
import SquareOne.Proofs.Scramble.LiteralInverse
import SquareOne.Proofs.Scramble.LiteralMoves
import SquareOne.Proofs.Scramble.Refusals
import SquareOne.Proofs.EntryPoints
import SquareOne.Proofs.Puzzle.SlotPermutation
import SquareOne.Proofs.Puzzle.WireForm
import SquareOne.Proofs.Session
import SquareOne.Proofs.Puzzle.FullRounds
import SquareOne.Proofs.Scramble.FullRounds
import SquareOne.Proofs.Puzzle.Tiling
import SquareOne.Proofs.Puzzle.PieceListing
import SquareOne.Proofs.Rewrite.Passes
import SquareOne.Proofs.Rewrite.Unmentioned
import SquareOne.Proofs.Shorthand.DirectRoute
import SquareOne.Proofs.Scramble.CompactTurns
import SquareOne.Proofs.Rewrite.LongestKey
import SquareOne.Proofs.Scramble.Parts
import SquareOne.Proofs.Scramble.Inversion
import SquareOne.Proofs.Scramble.FragmentMoves
import SquareOne.Proofs.Scramble.Grammar
import SquareOne.Proofs.Puzzle.WireGrammar
import SquareOne.Proofs.Puzzle.PieceBlocks
import SquareOne.Proofs.Colour.Scheme
