import SquareOne.Proofs.Scramble.Continuation
import SquareOne.Proofs.Scramble.Literal

/-! The turns of compact numbers. A compact number is cut by its length and by a minus in front of
it, wherever its minus stands. A half that ends with the minus is no numeral, so that the pair is
passed over when moves are read; every other compact number is a turn, at its place among the turns
of the expansion.
-/

namespace SquareOne

namespace Scramble

open Rewrite (letters)
open Shorthand (Block readBlocks)

/-- The turn by the two halves of a compact number, if both are numerals. -/
def compactTurn? (word : Text) : Option Turn := do
  let (first, second) ← halves? word
  return ⟨← Numeral.read? first, ← Numeral.read? second⟩

/-- A minus at the end of one of the halves that a compact number is cut into. -/
def HasStrayMinus (word : Text) : Prop :=
  word.getLast? = some '-' ∨ word.length = 4 ∧ word[1]? = some '-'

instance : DecidablePred HasStrayMinus := fun word =>
  inferInstanceAs (Decidable (word.getLast? = some '-' ∨ word.length = 4 ∧ word[1]? = some '-'))

structure IsHalf (half : Text) : Prop where
  chars : ∀ char ∈ half, char = '-' ∨ char.isDigit = true
  nonempty : half ≠ []
  short : half.length ≤ 2

theorem ne_minus_of_isDigit {char : Char} (digit : char.isDigit = true) : char ≠ '-' := by
  rintro rfl
  exact absurd digit (by decide)

theorem read?_of_digit_head {first : Char} {rest : Text} (digit : first.isDigit = true) :
    Numeral.read? (first :: rest) = (Numeral.readDigits? (first :: rest)).map Int.ofNat := by
  unfold Numeral.read?
  split
  · rename_i same
    cases same
    exact absurd digit (by decide)
  · rename_i same
    cases same
    exact absurd digit (by decide)
  · rfl

theorem IsHalf.isNumeralChar {half : Text} (isHalf : IsHalf half) :
    ∀ char ∈ half, IsNumeralChar char :=
  fun char member => .inr (isHalf.chars char member)

theorem IsHalf.read?_eq_none_iff {half : Text} (isHalf : IsHalf half) :
    Numeral.read? half = none ↔ half.getLast? = some '-' := by
  obtain ⟨chars, nonempty, short⟩ := isHalf
  match half with
  | [] => exact absurd rfl nonempty
  | [only] =>
      rcases chars only (by simp) with rfl | digit
      · decide
      · simp [read?_of_digit_head digit, Numeral.readDigits?, Numeral.isDigits, digit,
          ne_minus_of_isDigit digit]
  | [first, last] =>
      -- A minus in front is a sign, so that the last character alone decides.
      rcases chars first (by simp) with rfl | firstDigit <;>
        rcases chars last (by simp) with rfl | lastDigit
      · decide
      · simp [Numeral.read?, Numeral.readDigits?, Numeral.isDigits, lastDigit,
          ne_minus_of_isDigit lastDigit]
      · simp [read?_of_digit_head firstDigit, Numeral.readDigits?, Numeral.isDigits]
      · simp [read?_of_digit_head firstDigit, Numeral.readDigits?, Numeral.isDigits, firstDigit,
          lastDigit, ne_minus_of_isDigit lastDigit]
  | _ :: _ :: _ :: _ => simp at short

theorem mem_compact {word : Text} (compact : isCompact word = true) {char : Char}
    (member : char ∈ word) : char = '-' ∨ char.isDigit = true := by
  by_cases minus : char = '-'
  · exact .inl minus
  · rw [isCompact, Numeral.isDigits, Bool.and_eq_true, List.all_eq_true] at compact
    exact .inr (compact.2 char ((List.mem_erase_of_ne minus).mpr member))

section Halves

variable {word first second : Text} (compact : isCompact word = true)
  (cut : halves? word = some (first, second))
include compact cut

theorem isHalf_of_halves? : IsHalf first ∧ IsHalf second := by
  have chars : ∀ char ∈ word, char = '-' ∨ char.isDigit = true := fun _ => mem_compact compact
  have zero : IsHalf ['0'] := by
    refine ⟨fun char member => .inr ?_, List.cons_ne_nil '0' [], by simp⟩
    rw [List.mem_singleton.mp member]
    rfl
  unfold halves? at cut
  split at cut <;> cases cut
  · exact ⟨⟨chars, by simp, by simp⟩, zero⟩
  · exact ⟨⟨chars, by simp, by simp⟩, zero⟩
  all_goals
    simp only [List.forall_mem_cons] at chars
    exact ⟨⟨by simp [chars], by simp, by simp⟩, ⟨by simp [chars], by simp, by simp⟩⟩

theorem hasStrayMinus_iff :
    HasStrayMinus word ↔ first.getLast? = some '-' ∨ second.getLast? = some '-' := by
  unfold halves? at cut
  split at cut <;> cases cut
  · simp [HasStrayMinus]
  · simp [HasStrayMinus]
  · rename_i first second digit
    have other : first ≠ '-' := digit
    simp [HasStrayMinus, other]
  · rename_i first second
    -- The minus in front is the only one.
    have digits : Numeral.isDigits [first, second] = true := by
      rwa [isCompact, List.erase_cons_head] at compact
    have other : first ≠ '-' := ne_minus_of_isDigit (List.all_eq_true.mp
      (Bool.and_eq_true_iff.mp digits).2 first List.mem_cons_self)
    simp [HasStrayMinus, other]
  · rename_i first second third digit
    have other : first ≠ '-' := digit
    simp [HasStrayMinus, other]
  · simp [HasStrayMinus, or_comm]

theorem compactTurn?_eq : compactTurn? word = Turn.read? (first ++ ',' :: second) := by
  obtain ⟨firstHalf, secondHalf⟩ := isHalf_of_halves? compact cut
  rw [read?_of_numeralChars firstHalf.isNumeralChar secondHalf.isNumeralChar, compactTurn?, cut]
  rfl

theorem compactTurn?_eq_none_iff : compactTurn? word = none ↔ HasStrayMinus word := by
  obtain ⟨firstHalf, secondHalf⟩ := isHalf_of_halves? compact cut
  have unread : compactTurn? word = none ↔
      Numeral.read? first = none ∨ Numeral.read? second = none := by
    cases firstRead : Numeral.read? first <;> cases secondRead : Numeral.read? second <;>
      simp [compactTurn?, cut, firstRead, secondRead]
  rw [unread, firstHalf.read?_eq_none_iff, secondHalf.read?_eq_none_iff,
    hasStrayMinus_iff compact cut]

end Halves

/-- What a compact number gives to the turns of an expansion: the turn by its halves, or nothing if
it has a stray minus. Of other words this says nothing. -/
def Gives (word : Text) (turns : List Turn) : Prop :=
  isCompact word = true →
    turns = (compactTurn? word).toList ∧ (compactTurn? word = none ↔ HasStrayMinus word)

theorem gives_nil : Gives [] [] := fun compact => absurd compact (by decide)

theorem gives_of_short {word : Text} (short : isOverlong word = false) {parts : List (List Turn)}
    (shared : List.Forall₂ (fun part turns => ',' ∈ part → turns = (Turn.read? part).toList)
      (letters (withComma word)) parts) : Gives word parts.flatten := by
  intro compact
  have lengthBound : word.length ≤ 4 := by simpa [isOverlong, compact] using short
  obtain ⟨first, second, cut, joined⟩ := halves?_of_short compact lengthBound
  have comma : ',' ∈ first ++ ',' :: second := by simp
  rw [withComma, if_pos compact, ← joined, letters_of_comma comma] at shared
  obtain ⟨turns, rest, isTurn, noMore, rfl⟩ := List.forall₂_cons_left_iff.mp shared
  obtain rfl := List.forall₂_nil_left_iff.mp noMore
  rw [isTurn comma, List.flatten_cons, List.flatten_nil, List.append_nil]
  exact ⟨by rw [compactTurn?_eq compact cut], compactTurn?_eq_none_iff compact cut⟩

/-- The turns of blocks in parts, one for each word that was read as a block. -/
theorem exists_parts_spread {alignment : Alignment} {words : List Text} {blocks : List Block}
    (read : readBlocks alignment words = .ok blocks) (behind : Bool) :
    ∃ parts : List (List Turn),
      (Block.spread behind blocks).filterMap Turn.read? = parts.flatten ∧
        List.Forall₂ (fun word turns => ',' ∈ word → turns = (Turn.read? word).toList)
          words parts := by
  induction words generalizing alignment blocks behind with
  | nil =>
      cases read
      exact ⟨[], rfl, .nil⟩
  | cons word rest ih =>
      obtain ⟨block, others, rfl, first, readRest⟩ := Shorthand.readBlocks_cons read
      have ofComma : ',' ∈ word → block = .pair word := by
        intro comma
        rw [Block.ofWord, if_pos (by simpa using comma)] at first
        exact (Except.ok.inj first).symm
      cases block with
      | pair same =>
          obtain ⟨parts, turns, shared⟩ := ih readRest false
          refine ⟨(Turn.read? same).toList :: parts, ?_, .cons (fun comma => ?_) shared⟩
          · rw [Block.spread, List.flatten_cons, ← turns]
            cases read : Turn.read? same <;> simp [read]
          · rw [Block.pair.inj (ofComma comma)]
      | sequence words =>
          obtain ⟨parts, turns, shared⟩ := ih readRest true
          refine ⟨((if behind then [Block.nullTurn] else []) ++ words).filterMap Turn.read? :: parts,
            ?_, .cons (fun comma => ?_) shared⟩
          · rw [Block.spread, List.filterMap_append, turns, List.flatten_cons]
          · cases ofComma comma

/-- Parts for what some items stand for, put together item by item. -/
theorem exists_parts_flatMap {α β γ : Type} {source : α → List β} {related : β → List γ → Prop}
    {items : List α} {parts : List (List γ)}
    (shared : List.Forall₂ related (items.flatMap source) parts) :
    ∃ shares : List (List γ), parts.flatten = shares.flatten ∧
      List.Forall₂ (fun item share => ∃ parts, List.Forall₂ related (source item) parts ∧
        share = parts.flatten) items shares := by
  induction items generalizing parts with
  | nil =>
      obtain rfl := List.forall₂_nil_left_iff.mp shared
      exact ⟨[], rfl, .nil⟩
  | cons item rest ih =>
      have taken := (List.forall₂_take_append _ _ _ shared.flip).flip
      have dropped := (List.forall₂_drop_append _ _ _ shared.flip).flip
      obtain ⟨shares, same, ofRest⟩ := ih dropped
      refine ⟨(parts.take (source item).length).flatten :: shares, ?_, .cons ⟨_, taken, rfl⟩ ofRest⟩
      rw [List.flatten_cons, ← same, ← List.flatten_append, List.take_append_drop]

namespace Layout

variable {layout : Layout}

theorem exists_parts_pieces {parts : List (List Turn)}
    (given : List.Forall₂ Gives layout.words parts) :
    ∃ all : List (List Turn), parts.flatten = all.flatten ∧
      List.Forall₂ Gives layout.pieces all := by
  have ofEdge : ∀ present, ∃ empties : List (List Turn), empties.flatten = [] ∧
      List.Forall₂ Gives (edge present) empties := by
    intro present
    cases present with
    | false => exact ⟨[], rfl, .nil⟩
    | true => exact ⟨[[]], rfl, .cons gives_nil .nil⟩
  obtain ⟨before, beforeEmpty, givenBefore⟩ := ofEdge layout.lead
  obtain ⟨after, afterEmpty, givenAfter⟩ := ofEdge layout.trail
  refine ⟨before ++ parts ++ after, ?_,
    List.rel_append (List.rel_append givenBefore given) givenAfter⟩
  rw [List.flatten_append, List.flatten_append, beforeEmpty, afterEmpty, List.nil_append,
    List.append_nil]

theorem exists_parts_joined (wellFormed : layout.WellFormed) {parts : List (List Turn)}
    (given : List.Forall₂ Gives layout.words parts) :
    ∃ all : List (List Turn), parts.flatten = all.flatten ∧
      List.Forall₂ Gives ((layout.joined ' ').splitOn ' ') all := by
  obtain ⟨all, same, givenAll⟩ := exists_parts_pieces given
  by_cases empty : layout.pieces = []
  · rw [empty] at givenAll
    obtain rfl := List.forall₂_nil_left_iff.mp givenAll
    rw [joined, empty]
    exact ⟨[[]], same, .cons gives_nil .nil⟩
  · rw [splitOn_joined wellFormed (by decide) empty]
    exact ⟨all, same, givenAll⟩

end Layout

/-- The turns of an expansion are given word by word, in the order of the words. A compact number
gives one turn, the one by its two halves, unless it has a stray minus: then it gives none. -/
theorem expand_keeps_compact {scramble expansion : Text}
    (expanded : expand scramble = .ok expansion) :
    ∃ parts : List (List Turn), Move.turns (Move.readAll expansion) = parts.flatten ∧
      List.Forall₂ Gives ((flatten scramble).splitOn ' ') parts := by
  have wellFormed := Layout.ofText_wellFormed scramble
  obtain ⟨blocks, read, short, rfl⟩ := exists_blocks_of_expand expanded
  have canonical := Layout.laidOut_isCanonical_of_read wellFormed read
  obtain ⟨parts, turns, shared⟩ := exists_parts_spread read false
  rw [Layout.lettered, Layout.numbered, List.flatMap_map] at shared
  obtain ⟨shares, same, sharedByWord⟩ := exists_parts_flatMap shared
  have given : List.Forall₂ Gives (Layout.ofText scramble).words shares := by
    refine ((List.forall₂_and_left _ _).mpr ⟨short, sharedByWord⟩).imp ?_
    rintro word share ⟨wordShort, wordParts, ofWord, rfl⟩
    exact gives_of_short wordShort ofWord
  obtain ⟨all, sameAll, givenAll⟩ := Layout.exists_parts_joined wellFormed given
  rw [flatten_eq_joined, Layout.turns_readAll_joined canonical.wellFormed]
  exact ⟨all, (turns.trans same).trans sameAll, givenAll⟩

/-- The numbers stand around the sequence of a shorthand; the second one has a stray minus. -/
theorem expand_keeps_compact_around_name :
    expand "10/1-23/bpj/12-3".toList = .ok "1,0/1-,23/-1,2/-2,-2/3,0/12,-3".toList ∧
      ∃ sequence, Move.turns (Move.readAll "1,0/1-,23/-1,2/-2,-2/3,0/12,-3".toList) =
        ⟨1, 0⟩ :: sequence ++ [⟨12, -3⟩] := by
  have laidOut : (Layout.ofText "10/1-23/bpj/12-3".toList).expanded.toOption =
      some ⟨false, ["1,0", "1-,23", "-1,2", "-2,-2", "3,0", "12,-3"].map String.toList, false⟩ := by
    decide +kernel
  have expanded := expand_of_expanded laidOut
  obtain ⟨parts, turns, given⟩ := expand_keeps_compact expanded
  have words : (flatten "10/1-23/bpj/12-3".toList).splitOn ' ' =
      ["10".toList, "1-23".toList, "bpj".toList, "12-3".toList] := by decide
  rw [words] at given
  match parts, given with
  | [_, _, sequence, _], .cons ten (.cons stray (.cons _ (.cons last .nil))) =>
      obtain rfl := (ten (by decide)).1
      obtain rfl := (stray (by decide)).1
      obtain rfl := (last (by decide)).1
      exact ⟨expanded, sequence, turns⟩

/-- A number with a stray minus is accepted, and no move comes of it. -/
theorem expand_drops_compact :
    (flatten "1-".toList).splitOn ' ' = ["1-".toList] ∧ isCompact "1-".toList = true ∧
      halves? "1-".toList = some (['1'], ['-']) ∧
      expand "1-".toList = .ok "1,-".toList ∧ Move.readAll "1,-".toList = [] := by
  have expanded : (Layout.ofText "1-".toList).expanded.toOption =
      some ⟨false, ["1,-".toList], false⟩ := by decide +kernel
  exact ⟨by decide, by decide, by decide, expand_of_expanded expanded, by decide⟩

end Scramble

end SquareOne
