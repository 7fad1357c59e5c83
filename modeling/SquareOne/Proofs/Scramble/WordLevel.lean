import SquareOne.Proofs.Outcome
import SquareOne.Proofs.Scramble.CompactNumbers
import SquareOne.Proofs.Shorthand.Expansion
import SquareOne.Scramble.Compile

/-! The expansion of a scramble by its words: compact numbers become pairs, letter turns are written
out, shorthands are looked up from left to right, and what comes of it is laid out between slashes.
-/

namespace SquareOne.Scramble

open Rewrite (letters letterTurns)
open Shorthand (Block readBlocks)

namespace Layout

/-- The layout of the expansion of a text with this layout. -/
def expanded (layout : Layout) : Except Fault Layout :=
  match overlong? (layout.joined ' ') with
  | some (word, position) => .error (.unrecognizedWord word position)
  | none =>
      (readBlocks .square layout.numbered.lettered.words).map fun blocks =>
        Block.laidOut layout.lead blocks layout.trail

theorem expanded_of_short {layout : Layout} (wellFormed : layout.WellFormed)
    (short : ∀ word ∈ layout.words, isOverlong word = false) :
    layout.expanded =
      (readBlocks .square layout.numbered.lettered.words).map fun blocks =>
        Block.laidOut layout.lead blocks layout.trail := by
  rw [expanded, (overlong?_joined_eq_none wellFormed).mpr short]

end Layout

theorem ok_of_toOption {α : Type} {outcome : Except Fault α} {value : α}
    (found : outcome.toOption = some value) : outcome = .ok value := by
  cases outcome <;> cases found
  rfl

theorem expand_eq_expanded (scramble : Text) :
    expand scramble =
      (Layout.ofText scramble).expanded.map fun layout => layout.joined '/' := by
  have wellFormed := Layout.ofText_wellFormed scramble
  have numberedWellFormed := Layout.numbered_wellFormed wellFormed
  have settled : ∀ word ∈ (Layout.ofText scramble).numbered.lettered.words,
      letterTurns.wordsFor? word = none := by
    intro word member
    obtain ⟨source, -, inLetters⟩ := List.mem_flatMap.mp member
    exact wordsFor?_of_mem_letters inLetters
  have clean : ∀ piece ∈ (Layout.ofText scramble).numbered.pieces, ' ' ∉ piece :=
    fun _ member => Layout.not_mem_of_mem_pieces numberedWellFormed (by decide) member
  rw [expand, flatten_eq_joined, Layout.expanded]
  cases long : overlong? ((Layout.ofText scramble).joined ' ') with
  | some found => exact bind_error (separateNumbers_of_overlong long) _
  | none =>
      have numbers := separateNumbers_of_short long
      rw [Layout.joinWith_map_withComma wellFormed] at numbers
      rw [bind_ok numbers, bind_ok (Layout.rewrite_joined clean),
        Shorthand.expand_joined (Layout.lettered_wellFormed numberedWellFormed) settled]
      cases readBlocks .square (Layout.ofText scramble).numbered.lettered.words <;> rfl

/-- The expansion read off the words of a text, without any of its passes over characters. -/
def expandByWords (scramble : Text) : Except Fault Text :=
  match ((flatten scramble).splitOn ' ').zipIdx.find? fun (word, _) => isOverlong word with
  | some (word, position) => .error (.unrecognizedWord word position)
  | none => do
      let layout := Layout.ofText scramble
      let blocks ← readBlocks .square ((layout.words.map withComma).flatMap letters)
      return (Block.laidOut layout.lead blocks layout.trail).joined '/'

/-- Flattening, cutting numbers, rewriting, scanning and closing up the slashes come to what the
words say, for every text: the same expansion, or the same fault. -/
theorem expand_eq_expandByWords (scramble : Text) : expand scramble = expandByWords scramble := by
  rw [expand_eq_expanded, expandByWords, Layout.expanded, flatten_eq_joined, overlong?]
  cases (((Layout.ofText scramble).joined ' ').splitOn ' ').zipIdx.find?
      fun (word, _) => isOverlong word with
  | some found => rfl
  | none =>
      cases read : readBlocks .square (Layout.ofText scramble).numbered.lettered.words with
      | error fault =>
          rw [Layout.lettered, Layout.numbered] at read
          simp only [bind, Except.bind, read, Except.map]
      | ok blocks =>
          rw [Layout.lettered, Layout.numbered] at read
          simp only [bind, Except.bind, read, Except.map]
          rfl

end SquareOne.Scramble
