import SquareOne.Proofs.Scramble.Letters
import SquareOne.Proofs.Shorthand.Blocks
import SquareOne.Shorthand.Catalogue

/-! The scan, word by word: a word with a comma stays and may name a turn, any other word is looked
up as a shorthand under the alignment so far and stands for the pairs of its sequence.
-/

namespace SquareOne.Shorthand

open Rewrite (letters letterTurns)
open Scramble (Layout IsWord IsPair isSeparator)

namespace Block

/-- The pair that a word is, or the pairs of the sequence that it stands for under an alignment. -/
def ofWord (alignment : Alignment) (word : Text) : Except Fault Block :=
  if word.contains ',' then .ok (.pair word)
  else do
    let fragment ← catalogue.lookup word alignment
    return .sequence ((fragment.wordsBy isSeparator).flatMap letters)

def words : Block → List Text
  | .pair word => [word]
  | .sequence words => words

def turns (block : Block) : List Turn :=
  block.words.filterMap Turn.read?

def lettered : Block → Block
  | .pair word => .pair word
  | .sequence words => .sequence (words.flatMap letters)

end Block

/-- The blocks of some words, each under the alignment that the turns before it lead to. -/
def readBlocks (alignment : Alignment) : List Text → Except Fault (List Block)
  | [] => .ok []
  | word :: rest => do
      let block ← Block.ofWord alignment word
      let others ← readBlocks (alignment.track block.turns) rest
      return block :: others

theorem catalogueEntries_shape : ∀ entry ∈ catalogueEntries,
    let words := Text.wordsBy isSeparator entry.2.2.toList
    entry.2.2.toList = (Block.sequence words).text ∧ words ≠ [] ∧
      ∀ word ∈ words, (Rewrite.wordsOfLetter? word).isSome = true := by
  decide +kernel

theorem catalogue_entries : catalogue.entries.entries =
    catalogueEntries.map fun (name, variant, fragment) =>
      ((name.toList, variant), fragment.toList) :=
  Dictionary.entries_ofList (by decide +kernel)

/-- Every sequence that can be looked up is letter turns between two slashes. -/
theorem lookup_shape {name fragment : Text} {alignment : Alignment}
    (found : catalogue.lookup name alignment = .ok fragment) :
    let words := fragment.wordsBy isSeparator
    fragment = (Block.sequence words).text ∧ words ≠ [] ∧
      ∀ word ∈ words, (letterTurns.wordsFor? word).isSome = true := by
  have listed : ∃ key, (key, fragment) ∈ catalogue.entries.entries := by
    simp only [Table.lookup] at found
    split at found
    · rename_i free
      cases found
      exact ⟨_, Dictionary.mem_entries_of_get? free⟩
    · split at found
      · rename_i aligned
        cases found
        exact ⟨_, Dictionary.mem_entries_of_get? aligned⟩
      · cases found
  obtain ⟨key, member⟩ := listed
  rw [catalogue_entries, List.mem_map] at member
  obtain ⟨entry, entryMember, same⟩ := member
  obtain rfl := (Prod.mk.inj same).2
  simpa only [Rewrite.letterTurns_wordsFor?] using catalogueEntries_shape entry entryMember

theorem lookup_eq_error {table : Table} {name : Text} {alignment : Alignment} {fault : Fault}
    (missing : table.lookup name alignment = .error fault) :
    fault = .unknownShorthand name alignment := by
  simp only [Table.lookup] at missing
  split at missing
  · cases missing
  · split at missing <;> cases missing
    rfl

theorem turns_readAll_words {words : List Text} (areWords : ∀ word ∈ words, IsWord word) :
    Move.turns (Move.readAll (Text.joinWith ' ' words)) = words.filterMap Turn.read? := by
  rw [Move.readAll_joinWith_space]
  induction words with
  | nil => rfl
  | cons word rest ih =>
      have isWord := areWords word (by simp)
      have restTurns := ih fun next member => areWords next (List.mem_cons_of_mem _ member)
      rw [List.flatMap_cons, Move.readAll_of_solid isWord.1 isWord.no_slash isWord.no_blank,
        Move.turns, List.filterMap_append, List.filterMap_cons]
      rw [Move.turns] at restTurns
      rw [restTurns]
      cases Turn.read? word <;> rfl

theorem turnsOf_sequence {words : List Text} (areWords : ∀ word ∈ words, IsWord word) :
    turnsOf letterTurns (Block.sequence words).text =
      .ok (Block.lettered (.sequence words)).turns := by
  have clean : ∀ word ∈ words, ' ' ∉ word := fun word member => (areWords word member).no_space
  have opened : (Block.sequence words).text.replaceChar '/' [' '] =
      ' ' :: (Text.joinWith ' ' words ++ ' ' :: []) := by
    have noSlash : '/' ∉ Text.joinWith ' ' words := by
      intro member
      rcases Text.mem_joinWith member with same | ⟨word, wordMember, inWord⟩
      · exact absurd same (by decide)
      · exact (areWords word wordMember).no_slash inWord
    rw [Block.text, Text.replaceChar_append, Text.replaceChar_cons_self,
      Text.replaceChar_of_not_mem noSlash]
    rfl
  have cut : ((Block.sequence words).text.replaceChar '/' [' ']).words = words := by
    have solid : words.flatMap (Text.wordsBy Text.isBlank) = words :=
      Text.flatMap_eq_self fun word member =>
        Text.wordsBy_of_solid (areWords word member).1 (areWords word member).no_blank
    rw [opened, Text.words, Text.wordsBy_cons_gap (by decide), Text.wordsBy_append_gap (by decide),
      Text.wordsBy_joinWith (by decide), solid, Text.wordsBy_nil, List.append_nil]
  have lettersAreWords : ∀ part ∈ words.flatMap letters, IsWord part := by
    intro part member
    obtain ⟨word, wordMember, inWord⟩ := List.mem_flatMap.mp member
    exact Scramble.isWord_of_mem_letters (areWords word wordMember) inWord
  rw [turnsOf, cut, Rewrite.letterTurns_rewrite_joinWith clean]
  exact congrArg Except.ok (turns_readAll_words lettersAreWords)

/-- What the scan puts in the place of a word, and the alignment behind it. -/
theorem scanWord_eq {alignment : Alignment} {word : Text} (isWord : IsWord word)
    (settled : letterTurns.wordsFor? word = none) :
    match Block.ofWord alignment word with
    | .error fault => scanWord catalogue letterTurns alignment word = .error fault
    | .ok block => ∃ scanned : Block, scanned.WellFormed ∧ scanned.lettered = block ∧
        scanWord catalogue letterTurns alignment word =
          .ok ⟨scanned.text, alignment.track block.turns⟩ := by
  have nonempty : word.isEmpty = false := by simpa using isWord.1
  unfold Block.ofWord scanWord
  rw [nonempty, if_neg Bool.false_ne_true]
  by_cases comma : word.contains ',' = true
  · rw [if_pos comma, if_pos comma]
    have isPlain : Block.IsPlain word := ⟨isWord.1, isWord.no_space, isWord.no_slash⟩
    refine ⟨.pair word, ⟨isPlain, by simpa using comma⟩, rfl, ?_⟩
    have turns : (Block.pair word).turns = (Turn.read? word).toList := by
      simp only [Block.turns, Block.words, List.filterMap_cons, List.filterMap_nil]
      cases Turn.read? word <;> rfl
    rw [turns]
    rfl
  · have noRule : letterTurns.hasWord word = false := by
      rw [Rewrite.Table.hasWord_eq_isSome, settled]
      rfl
    rw [if_neg comma, if_neg comma, noRule, if_neg Bool.false_ne_true]
    cases found : catalogue.lookup word alignment with
    | error fault => rfl
    | ok fragment =>
        obtain ⟨shape, nonempty, areLetters⟩ := lookup_shape found
        have areWords : ∀ part ∈ fragment.wordsBy isSeparator, IsWord part := fun part member =>
          Scramble.isWord_of_letter (areLetters part member)
        have turns := turnsOf_sequence areWords
        rw [← shape] at turns
        refine ⟨.sequence (fragment.wordsBy isSeparator), ⟨nonempty, fun part member => ?_⟩, rfl,
          ?_⟩
        · exact ⟨(areWords part member).1, (areWords part member).no_space,
            (areWords part member).no_slash⟩
        · rw [← shape]
          simp only [bind, Except.bind, turns]
          rfl

theorem scan_eq {words : List Text} (areWords : ∀ word ∈ words, IsWord word)
    (settled : ∀ word ∈ words, letterTurns.wordsFor? word = none) (alignment : Alignment)
    (trail : Bool) :
    match readBlocks alignment words with
    | .error fault =>
        scan catalogue letterTurns alignment (words ++ Layout.edge trail) = .error fault
    | .ok blocks => ∃ scanned : List Block, (∀ block ∈ scanned, block.WellFormed) ∧
        scanned.map Block.lettered = blocks ∧
        scan catalogue letterTurns alignment (words ++ Layout.edge trail) =
          .ok (scanned.map Block.text ++ Layout.edge trail) := by
  induction words generalizing alignment with
  | nil =>
      refine ⟨[], by simp, rfl, ?_⟩
      cases trail <;> rfl
  | cons word rest ih =>
      have first := @scanWord_eq alignment word (areWords word (by simp)) (settled word (by simp))
      cases read : Block.ofWord alignment word with
      | error fault =>
          rw [read] at first
          simp only [readBlocks, read, bind, Except.bind, List.cons_append, scan, first]
      | ok block =>
          rw [read] at first
          obtain ⟨scanned, wellFormed, lettered, scannedFirst⟩ := first
          have others := ih (fun next member => areWords next (List.mem_cons_of_mem _ member))
            (fun next member => settled next (List.mem_cons_of_mem _ member))
            (alignment.track block.turns)
          cases readRest : readBlocks (alignment.track block.turns) rest with
          | error fault =>
              rw [readRest] at others
              simp only [readBlocks, read, readRest, bind, Except.bind, List.cons_append, scan,
                scannedFirst, others]
          | ok blocks =>
              rw [readRest] at others
              obtain ⟨scannedRest, restWellFormed, restLettered, scannedOthers⟩ := others
              simp only [readBlocks, read, readRest, bind, Except.bind, List.cons_append, scan,
                scannedFirst, scannedOthers, pure, Except.pure]
              exact ⟨scanned :: scannedRest, List.forall_mem_cons.mpr ⟨wellFormed, restWellFormed⟩,
                by rw [List.map_cons, lettered, restLettered], rfl⟩

end SquareOne.Shorthand
