import SquareOne.Proofs.Shorthand.DirectRoute
import SquareOne.Proofs.Shorthand.Scan

/-! The expansion of a text whose letter turns are pairs already: its words are read as blocks, and
the blocks are laid out between slashes. A text of pairs alone stays as it is.
-/

namespace SquareOne.Shorthand

open Rewrite (letters letterTurns)
open Scramble (Layout)

namespace Block

@[simp] theorem isSequence_lettered (block : Block) :
    block.lettered.isSequence = block.isSequence := by
  cases block <;> rfl

theorem closes_lettered (blocks : List Block) (behind : Bool) :
    closes behind (blocks.map lettered) = closes behind blocks := by
  induction blocks generalizing behind with
  | nil => rfl
  | cons block rest ih => rw [List.map_cons, closes, closes, isSequence_lettered, ih]

theorem spread_lettered {blocks : List Block} (wellFormed : ∀ block ∈ blocks, block.WellFormed)
    (behind : Bool) :
    (spread behind blocks).flatMap letters = spread behind (blocks.map lettered) := by
  induction blocks generalizing behind with
  | nil => cases behind <;> rfl
  | cons block rest ih =>
      have others := ih fun next member => wellFormed next (List.mem_cons_of_mem _ member)
      cases block with
      | pair word =>
          have comma : ',' ∈ word := (wellFormed _ List.mem_cons_self).2
          rw [spread, List.flatMap_cons, Scramble.letters_of_comma comma, others]
          rfl
      | sequence words =>
          have null : letters nullTurn = [nullTurn] := Scramble.letters_of_comma (by decide)
          cases behind with
          | true => simp [spread, lettered, others, null]
          | false => simp [spread, lettered, others]

theorem laidOut_lettered {blocks : List Block} (wellFormed : ∀ block ∈ blocks, block.WellFormed)
    (lead trail : Bool) :
    (laidOut lead blocks trail).lettered = laidOut lead (blocks.map lettered) trail := by
  have opening : opens (blocks.map lettered) = opens blocks := by
    cases blocks with
    | nil => rfl
    | cons block rest => simp [opens]
  rw [laidOut, laidOut, Layout.lettered, spread_lettered wellFormed, closes_lettered, opening]

theorem mem_spread {blocks : List Block} {behind : Bool} {word : Text}
    (member : word ∈ spread behind blocks) :
    word = nullTurn ∨ ∃ block ∈ blocks, word ∈ block.words := by
  induction blocks generalizing behind with
  | nil => cases behind <;> simp [spread] at member
  | cons block rest ih =>
      have later : ∀ next, word ∈ spread next rest →
          word = nullTurn ∨ ∃ other ∈ block :: rest, word ∈ other.words := by
        intro next inRest
        rcases ih inRest with isNull | ⟨other, otherMember, inWords⟩
        · exact .inl isNull
        · exact .inr ⟨other, List.mem_cons_of_mem _ otherMember, inWords⟩
      cases block with
      | pair first =>
          rw [spread] at member
          rcases List.mem_cons.mp member with rfl | inRest
          · exact .inr ⟨.pair word, List.mem_cons_self, List.mem_cons_self⟩
          · exact later false inRest
      | sequence words =>
          rw [spread, List.mem_append, List.mem_append] at member
          rcases member with (isNull | inWords) | inRest
          · split at isNull
            · exact .inl (List.mem_singleton.mp isNull)
            · simp at isNull
          · exact .inr ⟨.sequence words, List.mem_cons_self, inWords⟩
          · exact later true inRest

theorem isPlain_of_mem_spread {blocks : List Block}
    (wellFormed : ∀ block ∈ blocks, block.WellFormed) {behind : Bool} {word : Text}
    (member : word ∈ spread behind blocks) : IsPlain word := by
  rcases mem_spread member with rfl | ⟨block, blockMember, inWords⟩
  · exact ⟨by decide, by decide, by decide⟩
  · have blockWellFormed := wellFormed block blockMember
    cases block with
    | pair first =>
        obtain rfl := List.mem_singleton.mp inWords
        exact blockWellFormed.1
    | sequence words => exact blockWellFormed.2 word inWords

theorem laidOut_pairs (layout : Layout) :
    laidOut layout.lead (layout.words.map pair) layout.trail = layout := by
  obtain ⟨lead, words, trail⟩ := layout
  have spreadPairs : ∀ words : List Text, spread false (words.map pair) = words := by
    intro words
    induction words with
    | nil => rfl
    | cons word rest ih => rw [List.map_cons, spread, ih]
  have closePairs : ∀ words : List Text, closes false (words.map pair) = false := by
    intro words
    induction words with
    | nil => rfl
    | cons word rest ih => simpa [closes, isSequence] using ih
  have openPairs : opens (words.map pair) = false := by
    cases words <;> rfl
  rw [laidOut, spreadPairs, closePairs, openPairs, Bool.or_false, Bool.or_false]

end Block

open Block (laidOut)

/-- The letter turns in the blocks are written out, and every space becomes a slash. -/
theorem canonical_laidOut {blocks : List Block} (wellFormed : ∀ block ∈ blocks, block.WellFormed)
    (lead trail : Bool) :
    canonical letterTurns ((laidOut lead blocks trail).joined ' ') =
      .ok ((laidOut lead (blocks.map Block.lettered) trail).joined '/') := by
  have clean : ∀ piece ∈ (laidOut lead blocks trail).pieces, ' ' ∉ piece := by
    intro piece member
    rcases Layout.mem_pieces member with rfl | inWords
    · simp
    · exact (Block.isPlain_of_mem_spread wellFormed inWords).2.1
  rw [Layout.joined, canonical_joinWith clean, Layout.lettered_pieces,
    Block.laidOut_lettered wellFormed, Layout.joined]

theorem readBlocks_of_commas {words : List Text} (commas : ∀ word ∈ words, ',' ∈ word)
    (alignment : Alignment) : readBlocks alignment words = .ok (words.map .pair) := by
  induction words generalizing alignment with
  | nil => rfl
  | cons word rest ih =>
      have comma : word.contains ',' = true := by simpa using commas word (by simp)
      have others := ih fun next member => commas next (List.mem_cons_of_mem _ member)
      simp only [readBlocks, Block.ofWord, comma, if_true, others, bind, Except.bind]
      rfl

variable {layout : Layout}

theorem scan_edge (lead : Bool) (alignment : Alignment) (words : List Text) :
    scan catalogue letterTurns alignment (Layout.edge lead ++ words) =
      (scan catalogue letterTurns alignment words).map (Layout.edge lead ++ ·) := by
  have passed : scanWord catalogue letterTurns alignment [] = .ok ⟨[], alignment⟩ := rfl
  cases lead with
  | false =>
      rw [Layout.edge_false, List.nil_append]
      cases scan catalogue letterTurns alignment words <;> rfl
  | true =>
      rw [Layout.edge_true, List.singleton_append, scan, passed]
      cases found : scan catalogue letterTurns alignment words <;>
        simp only [bind, Except.bind, found] <;> rfl

theorem expandByScan_eq (table : Table) (rules : Rewrite.Table) (text : Text) :
    expandByScan table rules text =
      match scan table rules .square (text.splitOn ' ') with
      | .error fault => .error fault
      | .ok words => canonical rules (openSwaps (Text.joinWith ' ' words)) := by
  rw [expandByScan]
  cases scan table rules .square (text.splitOn ' ') <;> rfl

theorem expandByScan_joined (wellFormed : layout.WellFormed)
    (settled : ∀ word ∈ layout.words, letterTurns.wordsFor? word = none)
    (nonempty : layout.pieces ≠ []) :
    expandByScan catalogue letterTurns (layout.joined ' ') =
      (readBlocks .square layout.words).map fun blocks =>
        (laidOut layout.lead blocks layout.trail).joined '/' := by
  have scanned := scan_eq wellFormed.areWords settled .square layout.trail
  rw [expandByScan_eq, Layout.splitOn_joined wellFormed (by decide) nonempty, Layout.pieces,
    List.append_assoc, scan_edge]
  cases read : readBlocks .square layout.words with
  | error fault =>
      rw [read] at scanned
      rw [scanned]
      rfl
  | ok blocks =>
      rw [read] at scanned
      obtain ⟨found, foundWellFormed, rfl, scannedWords⟩ := scanned
      have opened := Block.openSwaps_blocks foundWellFormed layout.lead layout.trail
      have settled := canonical_laidOut foundWellFormed layout.lead layout.trail
      rw [← opened, List.append_assoc] at settled
      rw [scannedWords]
      exact settled

theorem expand_nil (table : Table) : expand table letterTurns [] = .ok [] := by
  have plain : (([] : Text).splitOn ' ').all (isPlain letterTurns) = true := rfl
  rw [expand, if_pos plain, canonical_eq, List.splitOn_nil, List.flatMap_singleton,
    Rewrite.letters_nil, Text.joinWith_singleton]

theorem expand_joined (wellFormed : layout.WellFormed)
    (settled : ∀ word ∈ layout.words, letterTurns.wordsFor? word = none) :
    expand catalogue letterTurns (layout.joined ' ') =
      (readBlocks .square layout.words).map fun blocks =>
        (laidOut layout.lead blocks layout.trail).joined '/' := by
  by_cases empty : layout.pieces = []
  · obtain ⟨lead, words, trail⟩ := layout
    simp only [Layout.pieces, List.append_eq_nil_iff] at empty
    obtain ⟨⟨noLead, rfl⟩, noTrail⟩ := empty
    cases lead with
    | true => cases noLead
    | false =>
        cases trail with
        | true => cases noTrail
        | false => exact expand_nil catalogue
  · have scanned := expandByScan_joined wellFormed settled empty
    by_cases plain : ((layout.joined ' ').splitOn ' ').all (isPlain letterTurns) = true
    · have noSlash : '/' ∉ layout.joined ' ' := by
        intro member
        rcases Layout.mem_joined wellFormed member with same | ⟨solid, -⟩
        · cases same
        · cases solid
      have kept := List.all_eq_true.mp plain
      rwa [expand, if_pos plain, ← expandByScan_of_isPlain exists_turnsOf catalogue noSlash kept]
    · rwa [expand, if_neg plain]

end SquareOne.Shorthand
