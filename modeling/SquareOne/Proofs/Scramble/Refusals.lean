import SquareOne.Proofs.Scramble.Reversal
import SquareOne.Scramble.Mode

/-! What can be refused on the way from a text to a state: a compact number that is too long, a
shorthand that is not known where it stands, and a wire form that is malformed. All of these are
faults of the text.
-/

namespace SquareOne

namespace Shorthand

theorem Block.ofWord_eq_error {alignment : Alignment} {word : Text} {fault : Fault}
    (refused : Block.ofWord alignment word = .error fault) :
    fault = .unknownShorthand word alignment := by
  rw [Block.ofWord] at refused
  split at refused
  · cases refused
  · rcases bind_eq_error refused with missing | ⟨fragment, -, made⟩
    · exact lookup_eq_error missing
    · cases made

theorem readBlocks_eq_error {alignment : Alignment} {words : List Text} {fault : Fault}
    (refused : readBlocks alignment words = .error fault) :
    ∃ name met, fault = .unknownShorthand name met := by
  induction words generalizing alignment with
  | nil => cases refused
  | cons word rest ih =>
      rcases bind_eq_error refused with first | ⟨block, -, behind⟩
      · exact ⟨word, alignment, Block.ofWord_eq_error first⟩
      · rcases bind_eq_error behind with later | ⟨others, -, made⟩
        · exact ih later
        · cases made

end Shorthand

namespace Scramble

variable {scramble : Text} {start : State} {fault : Fault}

theorem expand_eq_error (refused : expand scramble = .error fault) :
    (∃ word position, fault = .unrecognizedWord word position) ∨
      ∃ name alignment, fault = .unknownShorthand name alignment := by
  rw [expand_eq_expanded, Layout.expanded] at refused
  split at refused
  · cases refused
    exact .inl ⟨_, _, rfl⟩
  · cases read : Shorthand.readBlocks .square (Layout.ofText scramble).numbered.lettered.words with
    | error missing =>
        rw [read] at refused
        cases refused
        exact .inr (Shorthand.readBlocks_eq_error read)
    | ok blocks =>
        rw [read] at refused
        cases refused

theorem compile_eq_error :
    compile scramble start = .error fault ↔ expand scramble = .error fault := by
  rw [compile_eq]
  cases expand scramble <;> simp

end Scramble

namespace State

variable {mode : Mode} {text : Text} {fault : Fault}

theorem ofDigits_eq_error {digits : Text} {full : digits.length = slotCount}
    (refused : Layer.ofDigits digits full = .error fault) : fault = .layerDigits digits := by
  rw [Layer.ofDigits] at refused
  split at refused <;> cases refused
  rfl

theorem parse_eq_error {raw : Text} (refused : parse raw = .error fault) :
    (∃ found, fault = .stateLength found) ∨ ∃ layer, fault = .layerDigits layer := by
  simp only [parse] at refused
  split at refused
  · rcases bind_eq_error refused with badTop | ⟨top, -, behind⟩
    · exact .inr ⟨_, ofDigits_eq_error badTop⟩
    · rcases bind_eq_error behind with badBottom | ⟨bottom, -, made⟩
      · exact .inr ⟨_, ofDigits_eq_error badBottom⟩
      · cases made
  · cases refused
    exact .inl ⟨_, rfl⟩

/-- Whether a scramble or an algorithm is refused is settled when it is expanded. -/
theorem resolve_eq_error_iff (notHex : mode ≠ .hex) :
    resolve mode text = .error fault ↔ Scramble.expand text = .error fault := by
  cases mode with
  | scramble => exact Scramble.compile_eq_error
  | inverse => exact Scramble.compileInverse_eq_error
  | hex => exact absurd rfl notHex

theorem rejectsInput_of_resolve (refused : resolve mode text = .error fault) :
    fault.rejectsInput = true := by
  by_cases hex : mode = .hex
  · subst hex
    rcases parse_eq_error refused with ⟨found, rfl⟩ | ⟨layer, rfl⟩ <;> rfl
  · rcases Scramble.expand_eq_error ((resolve_eq_error_iff hex).mp refused) with
      ⟨word, position, rfl⟩ | ⟨name, alignment, rfl⟩ <;> rfl

end State

end SquareOne
