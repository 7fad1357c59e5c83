import Mathlib.Data.List.Destutter
import SquareOne.Proofs.Scramble.Literal

/-! The moves of a literal scramble. Read as it stands, every slash of it is a swap; compiled,
slashes that stand side by side are one gap between words and thus one swap.
-/

namespace SquareOne

namespace Move

/-- One of two moves is no swap. -/
def Parted (first second : Move) : Prop :=
  first ≠ swap ∨ second ≠ swap

instance : DecidableRel Parted := fun first second =>
  inferInstanceAs (Decidable (first ≠ swap ∨ second ≠ swap))

/-- The moves with a single swap for every run of swaps. -/
def mergeSwaps (moves : List Move) : List Move :=
  moves.destutter Parted

variable (offsets : Turn) (rest : List Move)

theorem mergeSwaps_swap_swap : mergeSwaps (swap :: swap :: rest) = mergeSwaps (swap :: rest) := by
  have merged : ¬Parted swap swap := by simp [Parted]
  rw [mergeSwaps, mergeSwaps, List.destutter_cons', List.destutter_cons',
    List.destutter'_cons_neg _ merged]

theorem mergeSwaps_swap_turn :
    mergeSwaps (swap :: turn offsets :: rest) = swap :: mergeSwaps (turn offsets :: rest) := by
  have parted : Parted swap (turn offsets) := .inr (by simp)
  rw [mergeSwaps, mergeSwaps, List.destutter_cons', List.destutter_cons',
    List.destutter'_cons_pos _ parted]

theorem mergeSwaps_turn_swap :
    mergeSwaps (turn offsets :: swap :: rest) = turn offsets :: mergeSwaps (swap :: rest) := by
  have parted : Parted (turn offsets) swap := .inl (by simp)
  rw [mergeSwaps, mergeSwaps, List.destutter_cons', List.destutter_cons',
    List.destutter'_cons_pos _ parted]

end Move

namespace Scramble

open Move (readAll mergeSwaps)

theorem IsLiteralTurn.readAll {text : Text} (literal : IsLiteralTurn text) :
    text ≠ [] ∧
      ∃ offsets, readAll text = [.turn offsets] ∧ readAll (bare text) = [.turn offsets] := by
  obtain ⟨offsets, read⟩ := literal.read?
  obtain ⟨top, bottom, topRead, bottomRead, encloses⟩ := literal
  have isPair := isPair_of_numerals topRead bottomRead
  have alone : Encloses (top ++ ',' :: bottom) (top ++ ',' :: bottom) := .inl rfl
  have pairRead : Turn.read? (top ++ ',' :: bottom) = some offsets := by
    rw [← encloses.bare_eq isPair.1, Turn.read?_bare, read]
  refine ⟨encloses.ne_nil isPair.1, offsets, ?_, ?_⟩
  · rw [encloses.readAll_eq isPair, pairRead]
    rfl
  · rw [encloses.bare_eq isPair.1, alone.readAll_eq isPair, pairRead]
    rfl

section Fragment

variable {fragment : Text} (isTurn : fragment = [] ∨ IsLiteralTurn fragment)
include isTurn

theorem readAll_bare : readAll (bare fragment) = readAll fragment := by
  rcases isTurn with rfl | literal
  · rfl
  · obtain ⟨-, offsets, read, readBare⟩ := literal.readAll
    rw [read, readBare]

theorem mergeSwaps_readAll : mergeSwaps (readAll fragment) = readAll fragment := by
  rcases isTurn with rfl | literal
  · rfl
  · obtain ⟨-, offsets, read, -⟩ := literal.readAll
    rw [read]
    rfl

theorem mergeSwaps_readAll_append (rest : List Move) :
    mergeSwaps (readAll fragment ++ .swap :: rest) =
      readAll fragment ++ mergeSwaps (.swap :: rest) := by
  rcases isTurn with rfl | literal
  · rfl
  · obtain ⟨-, offsets, read, -⟩ := literal.readAll
    rw [read, List.singleton_append, Move.mergeSwaps_turn_swap]
    rfl

end Fragment

/-- The pieces of a layout that come from the fragments behind a slash. -/
def piecesBehind (fragments : List Text) : List Text :=
  (fragments.filter fun fragment => !fragment.isEmpty).map bare ++
    Layout.edge (fragments.getLast? == some [])

theorem piecesBehind_ne_nil {fragments : List Text} (nonempty : fragments ≠ []) :
    piecesBehind fragments ≠ [] := by
  by_cases last : fragments.getLast nonempty = []
  · simp [piecesBehind, List.getLast?_eq_some_getLast nonempty, last]
  · have kept : fragments.getLast nonempty ∈ fragments.filter fun fragment => !fragment.isEmpty :=
      List.mem_filter.mpr ⟨List.getLast_mem nonempty, by simpa using last⟩
    simp [piecesBehind, List.ne_nil_of_mem kept]

theorem piecesBehind_nil_cons (next : Text) (rest : List Text) :
    piecesBehind ([] :: next :: rest) = piecesBehind (next :: rest) := by
  rw [piecesBehind, List.filter_cons_of_neg (by simp), List.getLast?_cons_cons]
  rfl

theorem piecesBehind_cons {fragment : Text} (nonempty : fragment ≠ []) (next : Text)
    (rest : List Text) :
    piecesBehind (fragment :: next :: rest) = bare fragment :: piecesBehind (next :: rest) := by
  rw [piecesBehind, List.filter_cons_of_pos (by simpa using nonempty), List.getLast?_cons_cons]
  rfl

theorem readAll_joinWith_cons {rest : List Text} (nonempty : rest ≠ []) (piece : Text) :
    readAll (Text.joinWith '/' (piece :: rest)) =
      readAll piece ++ .swap :: readAll (Text.joinWith '/' rest) := by
  obtain ⟨next, others, rfl⟩ := List.exists_cons_of_ne_nil nonempty
  rw [Text.joinWith_cons_cons, Move.readAll_append_slash]

variable {fragments : List Text}

theorem mergeSwaps_swap_readAll
    (areTurns : ∀ fragment ∈ fragments, fragment = [] ∨ IsLiteralTurn fragment)
    (nonempty : fragments ≠ []) :
    mergeSwaps (.swap :: readAll (Text.joinWith '/' fragments)) =
      .swap :: readAll (Text.joinWith '/' (piecesBehind fragments)) := by
  -- An empty fragment only lengthens the run of swaps that ends at it; a turn starts a new one.
  induction fragments with
  | nil => exact absurd rfl nonempty
  | cons fragment rest ih =>
      have restTurns : ∀ other ∈ rest, other = [] ∨ IsLiteralTurn other := fun other member =>
        areTurns other (List.mem_cons_of_mem _ member)
      rcases areTurns fragment List.mem_cons_self with rfl | literal
      · cases rest with
        | nil => rfl
        | cons next others =>
            rw [Text.joinWith_cons_cons, Move.readAll_append_slash, Move.readAll_nil,
              List.nil_append, Move.mergeSwaps_swap_swap,
              ih restTurns (List.cons_ne_nil next others), piecesBehind_nil_cons]
      · obtain ⟨someText, offsets, read, readBare⟩ := literal.readAll
        cases rest with
        | nil =>
            have pieces : piecesBehind [fragment] = [bare fragment] := by
              simp [piecesBehind, List.isEmpty_eq_false_iff.mpr someText]
            rw [pieces, Text.joinWith_singleton, Text.joinWith_singleton, read, readBare]
            rfl
        | cons next others =>
            have someRest := List.cons_ne_nil next others
            rw [piecesBehind_cons someText, Text.joinWith_cons_cons, Move.readAll_append_slash,
              readAll_joinWith_cons (piecesBehind_ne_nil someRest), read, readBare,
              List.singleton_append, List.singleton_append, Move.mergeSwaps_swap_turn,
              Move.mergeSwaps_turn_swap, ih restTurns someRest]

theorem readAll_ofFragments
    (areTurns : ∀ fragment ∈ fragments, fragment = [] ∨ IsLiteralTurn fragment) :
    readAll ((Layout.ofFragments fragments).joined '/') =
      mergeSwaps (readAll (Text.joinWith '/' fragments)) := by
  match fragments with
  | [] => rfl
  | [fragment] =>
      have isTurn := areTurns fragment List.mem_cons_self
      have joined : (Layout.ofFragments [fragment]).joined '/' = bare fragment := by
        cases fragment <;> simp [Layout.ofFragments, Layout.joined, Layout.pieces]
      rw [joined, Text.joinWith_singleton, readAll_bare isTurn, mergeSwaps_readAll isTurn]
  | fragment :: next :: others =>
      have isTurn := areTurns fragment List.mem_cons_self
      have someRest := List.cons_ne_nil next others
      have behind := mergeSwaps_swap_readAll (fun other member =>
        areTurns other (List.mem_cons_of_mem _ member)) someRest
      have pieces : (Layout.ofFragments (fragment :: next :: others)).pieces =
          bare fragment :: piecesBehind (next :: others) := by
        cases fragment <;> simp [Layout.ofFragments, Layout.pieces, piecesBehind]
      rw [Layout.joined, pieces, readAll_joinWith_cons (piecesBehind_ne_nil someRest),
        readAll_bare isTurn, ← behind, Text.joinWith_cons_cons, Move.readAll_append_slash,
        mergeSwaps_readAll_append isTurn]

theorem mergeSwaps_swap_readAll_of_parted
    (areTurns : ∀ fragment ∈ fragments, fragment = [] ∨ IsLiteralTurn fragment)
    (parted : ¬['/', '/'] <:+: '/' :: Text.joinWith '/' fragments) :
    mergeSwaps (.swap :: readAll (Text.joinWith '/' fragments)) =
      .swap :: readAll (Text.joinWith '/' fragments) := by
  induction fragments with
  | nil => rfl
  | cons fragment rest ih =>
      rcases areTurns fragment List.mem_cons_self with rfl | literal
      · cases rest with
        | nil => rfl
        | cons next others => exact absurd ⟨[], Text.joinWith '/' (next :: others), rfl⟩ parted
      · obtain ⟨-, offsets, read, -⟩ := literal.readAll
        cases rest with
        | nil =>
            rw [Text.joinWith_singleton, read]
            rfl
        | cons next others =>
            have inside := (List.suffix_append ('/' :: fragment)
              ('/' :: Text.joinWith '/' (next :: others))).isInfix
            have behind := ih
              (fun other member => areTurns other (List.mem_cons_of_mem _ member))
              fun sideBySide => parted (sideBySide.trans inside)
            rw [Text.joinWith_cons_cons, Move.readAll_append_slash, read, List.singleton_append,
              Move.mergeSwaps_swap_turn, Move.mergeSwaps_turn_swap, behind]

theorem mergeSwaps_readAll_of_parted
    (areTurns : ∀ fragment ∈ fragments, fragment = [] ∨ IsLiteralTurn fragment)
    (parted : ¬['/', '/'] <:+: Text.joinWith '/' fragments) :
    mergeSwaps (readAll (Text.joinWith '/' fragments)) = readAll (Text.joinWith '/' fragments) := by
  match fragments with
  | [] => rfl
  | [fragment] =>
      rw [Text.joinWith_singleton, mergeSwaps_readAll (areTurns fragment List.mem_cons_self)]
  | fragment :: next :: others =>
      rw [Text.joinWith_cons_cons] at parted ⊢
      have behind := mergeSwaps_swap_readAll_of_parted
        (fun other member => areTurns other (List.mem_cons_of_mem _ member))
        fun sideBySide => parted (sideBySide.trans (List.suffix_append fragment _).isInfix)
      rw [Move.readAll_append_slash,
        mergeSwaps_readAll_append (areTurns fragment List.mem_cons_self), behind]

/-- A literal scramble makes the moves that are read off its text, except that it makes a single
swap where several slashes stand side by side. -/
theorem compile_literal
    (areTurns : ∀ fragment ∈ fragments, fragment = [] ∨ IsLiteralTurn fragment) (start : State) :
    let scramble := Text.joinWith '/' fragments
    compile scramble start = .ok (start.applyAll (mergeSwaps (readAll scramble))) ∧
      (¬['/', '/'] <:+: scramble →
        compile scramble start = .ok (start.applyAll (readAll scramble))) := by
  intro scramble
  obtain ⟨spaced, trimmed⟩ := spaced_of_areFragments fun fragment member =>
    (areTurns fragment member).elim .inl IsLiteralTurn.isFragment
  have expanded := spaced.expand_eq
  rw [trimmed] at expanded
  have compiled := compile_of_expand expanded start
  rw [readAll_ofFragments areTurns] at compiled
  refine ⟨compiled, fun parted => ?_⟩
  rwa [mergeSwaps_readAll_of_parted areTurns parted] at compiled

theorem compile_literal_run :
    compile "(1,0)//0,-1/".toList .solved =
      .ok (State.solved.applyAll (mergeSwaps (readAll "(1,0)//0,-1/".toList))) := by
  have first : IsLiteralTurn "(1,0)".toList :=
    ⟨"1".toList, "0".toList, by decide, by decide, .inr (by decide)⟩
  have last : IsLiteralTurn "0,-1".toList :=
    ⟨"0".toList, "-1".toList, by decide, by decide, .inl (by decide)⟩
  have areTurns : ∀ fragment ∈ ["(1,0)".toList, [], "0,-1".toList, []],
      fragment = [] ∨ IsLiteralTurn fragment := by
    intro fragment member
    simp only [List.mem_cons, List.not_mem_nil, or_false] at member
    rcases member with rfl | rfl | rfl | rfl
    · exact .inr first
    · exact .inl rfl
    · exact .inr last
    · exact .inl rfl
  exact (compile_literal areTurns .solved).1

/-- Two slashes side by side are two swaps to the reader of moves, but only one is made. -/
theorem compile_slashes :
    readAll "//".toList = [.swap, .swap] ∧
      compile "//".toList .solved = .ok State.solved.swapHalves ∧
      compile "//".toList .solved ≠ .ok (State.solved.applyAll (readAll "//".toList)) := by
  have compiled : compile "//".toList .solved = .ok State.solved.swapHalves :=
    compile_of_expand (expand_of_isCanonical (by decide)) .solved
  refine ⟨by decide, compiled, fun same => ?_⟩
  rw [compiled] at same
  exact absurd (Except.ok.inj same) (by decide +kernel)

end Scramble

end SquareOne
