import SquareOne.Proofs.Rewrite.LetterExpansion
import SquareOne.Proofs.Scramble.Layout
import SquareOne.Proofs.Scramble.Reading

/-! Letter turns among the words of a scramble. Written out, a letter turn is one or more pairs,
words with a comma; all other words stay as they are.
-/

namespace SquareOne.Scramble

open Rewrite (letters letterTurns letterWords)

/-- A word with a comma, whether it names a turn or not. -/
def IsPair (word : Text) : Prop :=
  IsWord word ∧ ',' ∈ word

instance : DecidablePred IsPair := fun word =>
  inferInstanceAs (Decidable (IsWord word ∧ ',' ∈ word))

theorem letterWords_keys : ∀ entry ∈ letterWords,
    IsWord entry.1.toList ∧ ',' ∉ entry.1.toList := by
  decide +kernel

theorem letterWords_parts : ∀ entry ∈ letterWords, ∀ part ∈ entry.2.map String.toList,
    (Rewrite.wordsOfLetter? part).isSome = true ∨ IsPair part := by
  decide +kernel

theorem wordsFor?_of_comma {word : Text} (comma : ',' ∈ word) :
    letterTurns.wordsFor? word = none := by
  cases found : letterTurns.wordsFor? word with
  | none => rfl
  | some words =>
      obtain ⟨entry, member, rfl, -⟩ := Rewrite.mem_letterWords_of_some found
      exact absurd comma (letterWords_keys entry member).2

theorem isWord_of_letter {word : Text} (letter : (letterTurns.wordsFor? word).isSome) :
    IsWord word := by
  obtain ⟨words, found⟩ := Option.isSome_iff_exists.mp letter
  obtain ⟨entry, member, rfl, -⟩ := Rewrite.mem_letterWords_of_some found
  exact (letterWords_keys entry member).1

theorem letters_of_comma {word : Text} (comma : ',' ∈ word) : letters word = [word] :=
  Rewrite.Table.unfold_of_none (wordsFor?_of_comma comma) 2

theorem wordsFor?_of_mem_letters {word part : Text} (member : part ∈ letters word) :
    letterTurns.wordsFor? part = none :=
  Rewrite.letterTurns_ranked.wordsFor?_of_mem_unfold Rewrite.letterTurns_ofWords
    (Rewrite.letterTurns_ranked.bounded word) member

theorem isPair_of_mem_letters {word part : Text} (letter : (letterTurns.wordsFor? word).isSome)
    (member : part ∈ letters word) : IsPair part := by
  have settled := wordsFor?_of_mem_letters member
  rcases Rewrite.Table.mem_replacement_of_mem_unfold member with rfl | ⟨key, words, found, inWords⟩
  · simp [settled] at letter
  · obtain ⟨entry, entryMember, -, rfl⟩ := Rewrite.mem_letterWords_of_some found
    rcases letterWords_parts entry entryMember part inWords with another | isPair
    · rw [← Rewrite.letterTurns_wordsFor?, settled] at another
      simp at another
    · exact isPair

theorem no_space_of_mem_letters {word part : Text} (clean : ' ' ∉ word)
    (member : part ∈ letters word) : ' ' ∉ part := by
  cases found : letterTurns.wordsFor? word with
  | none =>
      rw [letters, Rewrite.Table.unfold_of_none found, List.mem_singleton] at member
      rwa [member]
  | some words => exact (isPair_of_mem_letters (by simp [found]) member).1.no_space

/-- Writing out the letters of a word keeps it a word, or makes it pairs. -/
theorem isWord_of_mem_letters {word part : Text} (isWord : IsWord word)
    (member : part ∈ letters word) : IsWord part := by
  cases found : letterTurns.wordsFor? word with
  | none =>
      rw [letters, Rewrite.Table.unfold_of_none found, List.mem_singleton] at member
      rwa [member]
  | some words => exact (isPair_of_mem_letters (by simp [found]) member).1

theorem flatMap_letters_ne_nil {words : List Text} (nonempty : words ≠ []) :
    words.flatMap letters ≠ [] := by
  intro empty
  obtain ⟨word, rest, rfl⟩ := List.exists_cons_of_ne_nil nonempty
  exact Rewrite.Table.unfold_ne_nil Rewrite.letterTurns_ofWords 2 word
    (List.flatMap_eq_nil_iff.mp empty word List.mem_cons_self)

namespace Layout

def lettered (layout : Layout) : Layout :=
  { layout with words := layout.words.flatMap letters }

theorem lettered_wellFormed {layout : Layout} (wellFormed : layout.WellFormed) :
    layout.lettered.WellFormed where
  areWords := by
    intro part member
    obtain ⟨word, wordMember, inWord⟩ := List.mem_flatMap.mp member
    exact isWord_of_mem_letters (wellFormed.areWords word wordMember) inWord
  sameEdges := by
    intro empty
    by_cases noWords : layout.words = []
    · exact wellFormed.sameEdges noWords
    · exact absurd empty (flatMap_letters_ne_nil noWords)

theorem lettered_pieces (layout : Layout) :
    layout.pieces.flatMap letters = layout.lettered.pieces := by
  have edges : ∀ present, (edge present).flatMap letters = edge present := by
    intro present
    cases present <;> simp [Rewrite.letters_nil]
  simp [pieces, lettered, edges]

theorem rewrite_joined {layout : Layout} (clean : ∀ piece ∈ layout.pieces, ' ' ∉ piece) :
    letterTurns.rewrite (layout.joined ' ') = .ok (layout.lettered.joined ' ') := by
  rw [joined, Rewrite.letterTurns_rewrite_joinWith clean, lettered_pieces, joined]

end Layout

end SquareOne.Scramble
