import SquareOne.Proofs.Scramble.Letters
import SquareOne.Proofs.Shorthand.Blocks
import SquareOne.Shorthand.Catalogue

/-! A text without shorthands is expanded directly, and the scan would have made the same of it.

The scan leaves every word of such a text as it is, and it cannot fail, because letter turns can be
written out in any text. Without slashes there is then nothing to close up and to open again, so
that both routes rewrite the same text.
-/

namespace SquareOne.Shorthand

open Rewrite (letters letterTurns)

section NoSlash

variable {text : Text}

theorem closeUp_of_no_slash (noSlash : '/' ∉ text) : closeUp text = text := by
  induction text with
  | nil => rfl
  | cons char rest ih =>
      simp only [List.mem_cons, not_or] at noSlash
      have notBefore : rest.head? ≠ some '/' := fun first => noSlash.2 (List.mem_of_head? first)
      rw [Block.closeUp_cons, ih noSlash.2, pushClosed, if_neg fun same => noSlash.1 same.symm]
      simp [notBefore]

theorem openSwaps_of_no_slash (noSlash : '/' ∉ text) : openSwaps text = text := by
  have apart := Block.separateSwaps_append noSlash []
  rw [separateSwaps, List.append_nil] at apart
  rw [openSwaps, closeUp_of_no_slash noSlash, apart, Text.replaceChar_of_not_mem noSlash]

end NoSlash

section Scan

variable {rules : Rewrite.Table} (converges : ∀ word, ∃ turns, turnsOf rules word = .ok turns)

include converges

theorem scanWord_of_isPlain (table : Table) (alignment : Alignment) {word : Text}
    (plain : isPlain rules word = true) :
    ∃ after, scanWord table rules alignment word = .ok ⟨word, after⟩ := by
  unfold scanWord
  by_cases empty : word.isEmpty = true
  · exact ⟨alignment, if_pos empty⟩
  rw [if_neg empty]
  by_cases comma : word.contains ',' = true
  · exact ⟨_, if_pos comma⟩
  rw [if_neg comma]
  rw [isPlain, Bool.eq_false_iff.mpr empty, Bool.eq_false_iff.mpr comma] at plain
  have replaced : rules.hasWord word = true := plain
  obtain ⟨turns, found⟩ := converges word
  rw [if_pos replaced, found]
  exact ⟨alignment.track turns, rfl⟩

theorem scan_of_isPlain (table : Table) (alignment : Alignment) {words : List Text}
    (plain : ∀ word ∈ words, isPlain rules word = true) :
    scan table rules alignment words = .ok words := by
  induction words generalizing alignment with
  | nil => rfl
  | cons word rest ih =>
      obtain ⟨after, scanned⟩ :=
        scanWord_of_isPlain converges table alignment (plain word List.mem_cons_self)
      have others := ih after fun next member => plain next (List.mem_cons_of_mem _ member)
      simp only [scan, scanned, others, bind, Except.bind, pure, Except.pure]

theorem expandByScan_of_isPlain (table : Table) {text : Text} (noSlash : '/' ∉ text)
    (plain : ∀ word ∈ text.splitOn ' ', isPlain rules word = true) :
    expandByScan table rules text = canonical rules text := by
  rw [expandByScan, scan_of_isPlain converges table .square plain]
  simp only [bind, Except.bind, Text.joinWith_splitOn, openSwaps_of_no_slash noSlash]

end Scan

/-- The letter turns are written out, and a slash takes the place of every space. -/
theorem canonical_joinWith {pieces : List Text} (clean : ∀ piece ∈ pieces, ' ' ∉ piece) :
    canonical letterTurns (Text.joinWith ' ' pieces) =
      .ok (Text.joinWith '/' (pieces.flatMap letters)) := by
  have settledClean : ∀ part ∈ pieces.flatMap letters, ' ' ∉ part := by
    intro part member
    obtain ⟨piece, inPieces, inLetters⟩ := List.mem_flatMap.mp member
    exact Scramble.no_space_of_mem_letters (clean piece inPieces) inLetters
  rw [canonical, Rewrite.letterTurns_rewrite_joinWith clean]
  exact congrArg Except.ok (Text.replaceChar_joinWith settledClean)

theorem canonical_eq (text : Text) :
    canonical letterTurns text =
      .ok (Text.joinWith '/' ((text.splitOn ' ').flatMap letters)) := by
  have clean : ∀ piece ∈ text.splitOn ' ', ' ' ∉ piece := fun _ member =>
    Text.not_mem_of_mem_splitOn member
  have joined := canonical_joinWith clean
  rwa [Text.joinWith_splitOn] at joined

theorem isPlain_letterTurns (word : Text) :
    isPlain letterTurns word =
      (word.isEmpty || word.contains ',' || (Rewrite.wordsOfLetter? word).isSome) := by
  rw [isPlain, Rewrite.Table.hasWord_eq_isSome, Rewrite.letterTurns_wordsFor?]

theorem exists_turnsOf (fragment : Text) : ∃ turns, turnsOf letterTurns fragment = .ok turns := by
  rw [turnsOf, Rewrite.letterTurns_rewrite]
  exact ⟨_, rfl⟩

/-- Whether or not a text needs the scan, its expansion is the one that the scan leads to, and so is
the fault for which it is refused. -/
theorem expand_eq_expandByScan (table : Table) {text : Text} (noSlash : '/' ∉ text) :
    expand table letterTurns text = expandByScan table letterTurns text := by
  by_cases plain : (text.splitOn ' ').all (isPlain letterTurns) = true
  · have kept := List.all_eq_true.mp plain
    rw [expand, if_pos plain, expandByScan_of_isPlain exists_turnsOf table noSlash kept]
  · rw [expand, if_neg plain]

theorem expand_eq_expandByScan_misspelt :
    let text := " U4  1,x (2, e'".toList
    '/' ∉ text ∧ expand catalogue letterTurns text = expandByScan catalogue letterTurns text ∧
      expandByScan catalogue letterTurns text =
        .ok "/3,0/-3,0/3,0/-3,0//1,x/(2,/-3,-3".toList := by
  intro text
  have noSlash : '/' ∉ text := by decide
  have plain : (text.splitOn ' ').all (isPlain letterTurns) = true := by
    rw [funext isPlain_letterTurns]
    decide +kernel
  have direct : expand catalogue letterTurns text =
      .ok "/3,0/-3,0/3,0/-3,0//1,x/(2,/-3,-3".toList := by
    rw [expand, if_pos plain, canonical_eq, funext Rewrite.letters_eq]
    exact congrArg Except.ok (by decide +kernel)
  have routes := expand_eq_expandByScan catalogue noSlash
  exact ⟨noSlash, routes, routes.symm.trans direct⟩

end SquareOne.Shorthand
