import SquareOne.Proofs.Scramble.LiteralInverse

/-! The moves read off the inverse of a text whose fragments are lists of literal turns.

Negating a fragment works on its words one by one, as reading does, so that every turn is negated in
its place. The turns of a fragment are thus not put into the opposite order; but turns may be made in
any order, and the inverse still takes the text back.
-/

namespace SquareOne

namespace Part

variable {behind : Text}

theorem ofText_cons_blank {gap : Char} (blank : Text.isBlank gap = true) (behind : Text) :
    ofText (gap :: behind) = .mark gap :: ofText behind := by
  have isMark : isRunChar gap = false := by simp [isRunChar, blank]
  have other : gap ≠ '(' := by
    rintro rfl
    exact absurd blank (by decide)
  rw [ofText_cons, push_mark isMark other]

theorem ofText_ne_run (parted : behind.head?.all Text.isBlank = true) (word : Text)
    (after : List Part) : ofText behind ≠ .run word :: after := by
  cases behind with
  | nil => simp [ofText]
  | cons gap behind =>
      rw [ofText_cons_blank parted]
      simp

end Part

/-- A word without a comma is no turn. -/
theorem Turn.read?_of_no_comma {word : Text} (noComma : ',' ∉ word) : Turn.read? word = none := by
  have absent : ',' ∉ Scramble.bare word := fun member => noComma (Scramble.mem_bare.mp member).1
  rw [Turn.read?, List.splitOn_eq_singleton absent]

namespace Scramble

open Move (readAll)

variable {fragment text word rest : Text}

/-- A word that holds nothing of a turn: no comma and no parenthesis. -/
def IsFiller (word : Text) : Prop :=
  ',' ∉ word ∧ ∀ char ∈ word, isParenthesis char = false

/-- Literal turns and fillers with blanks between them. -/
def IsTurnList (fragment : Text) : Prop :=
  ∀ word ∈ Text.words fragment, IsLiteralTurn word ∨ IsFiller word

theorem isTurnList_trim (isTurnList : IsTurnList fragment) : IsTurnList (Text.trim fragment) := by
  rwa [IsTurnList, Text.words_trim]

theorem isTurnList_cons_blank {gap : Char} (blank : Text.isBlank gap = true) :
    IsTurnList (gap :: rest) ↔ IsTurnList rest := by
  rw [IsTurnList, Text.words, Text.wordsBy_cons_gap blank]
  rfl

theorem isTurnList_word_append (nonempty : word ≠ [])
    (solid : ∀ char ∈ word, Text.isBlank char = false)
    (parted : rest.head?.all Text.isBlank = true) :
    IsTurnList (word ++ rest) ↔ (IsLiteralTurn word ∨ IsFiller word) ∧ IsTurnList rest := by
  rw [IsTurnList, Text.words, Text.wordsBy_word_append nonempty solid parted,
    List.forall_mem_cons]
  rfl

theorem negateTurns_cons_blank {gap : Char} (blank : Text.isBlank gap = true) (rest : Text) :
    negateTurns (gap :: rest) = gap :: negateTurns rest := by
  rw [negateTurns, Part.ofText_cons_blank blank]
  rfl

theorem head?_all_negateTurns (parted : rest.head?.all Text.isBlank = true) :
    (negateTurns rest).head?.all Text.isBlank = true := by
  cases rest with
  | nil => rfl
  | cons gap rest =>
      have blank : Text.isBlank gap = true := parted
      rw [negateTurns_cons_blank blank]
      exact blank

theorem Encloses.ofText_append (encloses : Encloses text word) (isPair : IsPair word)
    (parted : rest.head?.all Text.isBlank = true) :
    Part.ofText (text ++ rest) = Part.ofText text ++ Part.ofText rest := by
  rcases encloses with rfl | rfl
  · rw [Part.ofText_append_of_isWord isPair.1 (Part.ofText_ne_run parted),
      Part.ofText_of_isWord isPair.1]
    rfl
  · have group := fun behind : Text => @Part.ofText_group word behind
      fun char member => (isPair.1.2 char member).2
    rw [List.cons_append, List.cons_append, List.append_assoc, List.singleton_append, group rest,
      group []]
    rfl

/-- A turn is cut off from what stands behind the blank at its end, and is read as the inverse move
when it has been negated. -/
theorem IsLiteralTurn.negateTurns_append (literal : IsLiteralTurn word)
    (parted : rest.head?.all Text.isBlank = true) :
    negateTurns (word ++ rest) = negateTurns word ++ negateTurns rest ∧
      readAll (negateTurns word) = (readAll word).map Move.inverse := by
  obtain ⟨top, bottom, topRead, bottomRead, encloses⟩ := literal
  have isPair := isPair_of_numerals topRead bottomRead
  have negated := negateTurns_of_encloses encloses isPair
  constructor
  · rw [negateTurns, encloses.ofText_append isPair parted, List.flatMap_append]
    rfl
  · rw [negated.readAll_eq (Part.isPair_negateList isPair), encloses.readAll_eq isPair,
      Turn.read?_negateList isPair]
    cases Turn.read? (top ++ ',' :: bottom) <;> rfl

theorem IsFiller.negateTurns_append (filler : IsFiller word) (nonempty : word ≠ [])
    (solid : ∀ char ∈ word, Text.isBlank char = false) (noSlash : '/' ∉ word)
    (parted : rest.head?.all Text.isBlank = true) :
    negateTurns (word ++ rest) = word ++ negateTurns rest ∧ readAll word = [] := by
  have runChars : ∀ char ∈ word, Part.isRunChar char = true := by
    intro char member
    refine Part.isRunChar_iff.mpr ⟨solid char member, filler.2 char member, ?_⟩
    exact beq_eq_false_iff_ne.mpr fun same => noSlash (same ▸ member)
  constructor
  · rw [negateTurns, Part.ofText_run nonempty runChars (Part.ofText_ne_run parted),
      List.flatMap_cons, Part.negate_run_of_no_comma filler.1]
    rfl
  · rw [Move.readAll_of_solid nonempty noSlash solid, Turn.read?_of_no_comma filler.1]
    rfl

/-- Every turn of a list is negated in its place. -/
theorem readAll_negateTurns (noSlash : '/' ∉ fragment) (isTurnList : IsTurnList fragment) :
    readAll (negateTurns fragment) = (readAll fragment).map Move.inverse := by
  -- Reading goes by words and negating by parts, but no part reaches beyond the end of a word.
  induction fragment using Text.wordInduction Text.isBlank with
  | nil => rfl
  | gap char rest blank ih =>
      rw [negateTurns_cons_blank blank, Move.readAll_cons_blank blank,
        Move.readAll_cons_blank blank]
      exact ih (fun member => noSlash (List.mem_cons_of_mem char member))
        ((isTurnList_cons_blank blank).mp isTurnList)
  | word word rest nonempty solid parted ih =>
      rw [List.mem_append, not_or] at noSlash
      obtain ⟨inList, restList⟩ := (isTurnList_word_append nonempty solid parted).mp isTurnList
      have behind := ih noSlash.2 restList
      have negatedParted := head?_all_negateTurns parted
      rw [Move.readAll_append_of_head parted, List.map_append, ← behind]
      rcases inList with literal | filler
      · obtain ⟨append, read⟩ := literal.negateTurns_append parted
        rw [append, Move.readAll_append_of_head negatedParted, read]
      · obtain ⟨append, read⟩ := filler.negateTurns_append nonempty solid noSlash.1 parted
        rw [append, Move.readAll_append_of_head negatedParted, read]
        rfl

theorem map_readAll_fragments (scramble : Text) :
    (fragments scramble).map readAll = (scramble.splitOn '/').map readAll := by
  rw [fragments, List.map_map]
  exact List.map_congr_left fun fragment _ => Move.readAll_trim fragment

/-- The inverse of a text of literal turns and fillers reads as the fragments of the text in the
opposite order with a swap between neighbours, every turn negated in the place that it has in its
fragment. From every state it takes back what the text does. -/
theorem readAll_invert {scramble : Text}
    (areTurnLists : ∀ fragment ∈ scramble.splitOn '/', IsTurnList fragment) :
    readAll (invert scramble) =
        [.swap].intercalate ((scramble.trim.splitOn '/').reverse.map fun fragment =>
          (readAll fragment).map Move.inverse) ∧
      (∀ fragment ∈ scramble.trim.splitOn '/', .swap ∉ readAll fragment) ∧
      ∀ state : State,
        (state.applyAll (readAll scramble)).applyAll (readAll (invert scramble)) = state := by
  have turnsOnly : ∀ text : Text, ∀ fragment ∈ text.splitOn '/', .swap ∉ readAll fragment :=
    fun text fragment member => Move.swap_not_mem_readAll (Text.not_mem_of_mem_splitOn member)
  have negated : ∀ fragment ∈ fragments scramble,
      readAll (negateTurns fragment) = (readAll fragment).map Move.inverse := by
    intro fragment member
    refine readAll_negateTurns (no_slash_of_mem_fragments member) ?_
    obtain ⟨source, sourceMember, rfl⟩ := List.mem_map.mp member
    exact isTurnList_trim (areTurnLists source sourceMember)
  have ofTrim : (scramble.trim.splitOn '/').map readAll = (scramble.splitOn '/').map readAll := by
    rw [← map_readAll_fragments, fragments, Text.map_trim_splitOn_trim]
    exact map_readAll_fragments scramble
  have inverse : readAll (invert scramble) = [.swap].intercalate
      (((scramble.splitOn '/').map readAll).reverse.map (List.map Move.inverse)) := by
    rw [invert_eq, Move.readAll_joinWith_slash, ← map_readAll_fragments, List.map_map,
      ← List.map_reverse, List.map_map]
    exact congrArg _ (List.map_congr_left fun fragment member =>
      negated fragment (List.mem_reverse.mp member))
  refine ⟨?_, turnsOnly _, fun state => ?_⟩
  · rw [inverse, ← ofTrim, ← List.map_reverse, List.map_map]
    rfl
  · have forth := Move.readAll_joinWith_slash (scramble.splitOn '/')
    rw [Text.joinWith_splitOn] at forth
    rw [inverse, forth]
    refine State.applyAll_parts_inverse (fun part member => ?_) state
    obtain ⟨fragment, fragmentMember, rfl⟩ := List.mem_map.mp member
    exact turnsOnly scramble fragment fragmentMember

theorem readAll_invert_mixed :
    readAll (invert " (1,0) x -2,3/ / 0,6 (4,+1)\t".toList) =
        [.turn ⟨0, -6⟩, .turn ⟨-4, -1⟩, .swap, .swap, .turn ⟨-1, 0⟩, .turn ⟨2, -3⟩] ∧
      (State.solved.applyAll (readAll " (1,0) x -2,3/ / 0,6 (4,+1)\t".toList)).applyAll
        (readAll (invert " (1,0) x -2,3/ / 0,6 (4,+1)\t".toList)) = .solved := by
  have cut : (" (1,0) x -2,3/ / 0,6 (4,+1)\t".toList.splitOn '/').map Text.words =
      [["(1,0)".toList, "x".toList, "-2,3".toList], [], ["0,6".toList, "(4,+1)".toList]] := by
    decide
  have inLists : ∀ words ∈ (" (1,0) x -2,3/ / 0,6 (4,+1)\t".toList.splitOn '/').map Text.words,
      ∀ word ∈ words, IsLiteralTurn word ∨ IsFiller word := by
    rw [cut]
    simp only [List.forall_mem_cons, List.not_mem_nil, false_implies, implies_true, and_true,
      true_and]
    refine ⟨⟨.inl ?_, .inr ?_, .inl ?_⟩, .inl ?_, .inl ?_⟩
    · exact ⟨"1".toList, "0".toList, by decide, by decide, .inr (by decide)⟩
    · exact ⟨by decide, Text.forall_mem_of_all (by decide)⟩
    · exact ⟨"-2".toList, "3".toList, by decide, by decide, .inl (by decide)⟩
    · exact ⟨"0".toList, "6".toList, by decide, by decide, .inl (by decide)⟩
    · exact ⟨"4".toList, "+1".toList, by decide, by decide, .inr (by decide)⟩
  obtain ⟨inverse, -, undone⟩ := readAll_invert fun fragment member =>
    inLists (Text.words fragment) (List.mem_map_of_mem member)
  exact ⟨inverse.trans (by decide +kernel), undone .solved⟩

end Scramble

end SquareOne
