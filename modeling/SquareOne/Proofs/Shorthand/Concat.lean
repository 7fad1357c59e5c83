import SquareOne.Proofs.Scramble.Canonical

/-! Blocks with one more behind them. It is read under the alignment that the turns of the others
lead to, and as long as turns by nothing do not count, these are the turns of the words that the
blocks spread out to.
-/

namespace SquareOne

namespace Alignment

theorem advance_null (alignment : Alignment) : alignment.advance ⟨0, 0⟩ = alignment := by
  simp [advance]

end Alignment

namespace Shorthand

theorem readBlocks_concat {alignment : Alignment} {words : List Text} {blocks : List Block}
    (read : readBlocks alignment words = .ok blocks) (word : Text) :
    readBlocks alignment (words ++ [word]) =
      (Block.ofWord (alignment.track (blocks.flatMap Block.turns)) word).map
        fun block => blocks ++ [block] := by
  induction words generalizing alignment blocks with
  | nil =>
      cases read
      rw [List.nil_append, readBlocks]
      cases made : Block.ofWord alignment word with
      | error fault => simp [made, Except.map, bind, Except.bind]
      | ok block => simp [readBlocks, made, Except.map, bind, Except.bind, pure, Except.pure]
  | cons first rest ih =>
      obtain ⟨block, others, rfl, made, behind⟩ := readBlocks_cons read
      rw [List.cons_append, readBlocks, made, List.flatMap_cons, Alignment.track_append]
      simp only [bind, Except.bind, ih behind]
      cases Block.ofWord _ word <;> rfl

namespace Block

theorem spread_concat (behind : Bool) (blocks : List Block) (words : List Text) :
    spread behind (blocks ++ [.sequence words]) =
      spread behind blocks ++ (if closes behind blocks then [nullTurn] else []) ++ words := by
  induction blocks generalizing behind with
  | nil => exact List.append_nil _
  | cons block rest ih =>
      cases block with
      | pair word =>
          rw [List.cons_append, spread, ih]
          rfl
      | sequence others =>
          rw [List.cons_append, spread, ih, spread, List.append_assoc, List.append_assoc,
            List.append_assoc, List.append_assoc, List.append_assoc]
          rfl

theorem closes_concat (behind : Bool) (blocks : List Block) (words : List Text) :
    closes behind (blocks ++ [.sequence words]) = true := by
  induction blocks generalizing behind with
  | nil => rfl
  | cons block rest ih => exact ih block.isSequence

/-- The turns by nothing between sequences do not count. -/
theorem track_spread (behind : Bool) (blocks : List Block) (alignment : Alignment) :
    alignment.track ((spread behind blocks).filterMap Turn.read?) =
      alignment.track (blocks.flatMap turns) := by
  have null : Turn.read? nullTurn = some ⟨0, 0⟩ := by decide
  induction blocks generalizing behind alignment with
  | nil => rfl
  | cons block rest ih =>
      rw [List.flatMap_cons, Alignment.track_append, ← ih block.isSequence]
      cases block with
      | pair word =>
          rw [spread, ← List.singleton_append, List.filterMap_append, Alignment.track_append]
          rfl
      | sequence words =>
          rw [spread, List.filterMap_append, List.filterMap_append, Alignment.track_append,
            Alignment.track_append]
          cases behind with
          | false => rfl
          | true => simp only [if_true, List.filterMap_cons, null, List.filterMap_nil,
              Alignment.track_cons, Alignment.advance_null, Alignment.track_nil]; rfl

end Block

end Shorthand

end SquareOne
