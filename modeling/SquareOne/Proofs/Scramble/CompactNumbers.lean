import SquareOne.Proofs.Scramble.Layout

/-! Compact numbers among the words of a scramble. One of up to four characters is a pair; the first
longer one is refused, at its place between the spaces.
-/

namespace SquareOne.Scramble

def isOverlong (word : Text) : Bool :=
  isCompact word && decide (4 < word.length)

/-- The first word that is too long, with the number of spaces before it. -/
def overlong? (text : Text) : Option (Text × Nat) :=
  (text.splitOn ' ').zipIdx.find? fun (word, _) => isOverlong word

/-- The pair that a compact number names: the first half takes two characters if there is a minus in
front or if there are four of them, and the second half is zero when nothing is left for it. -/
def pairOf (word : Text) : Text :=
  let cut := if word.head? = some '-' ∨ word.length = 4 then 2 else 1
  word.take cut ++ ',' :: (if word.length ≤ cut then ['0'] else word.drop cut)

/-- The word itself, or its pair if it is a compact number. -/
def withComma (word : Text) : Text :=
  if isCompact word then pairOf word else word

theorem halves?_of_short {word : Text} (compact : isCompact word = true)
    (short : word.length ≤ 4) :
    ∃ first second, halves? word = some (first, second) ∧ first ++ ',' :: second = pairOf word := by
  match word with
  | [] => exact absurd compact (by decide)
  | [first] =>
      have digit : first ≠ '-' := by
        rintro rfl
        exact absurd compact (by decide)
      exact ⟨[first], ['0'], rfl, by simp [pairOf, digit]⟩
  | [first, second] =>
      by_cases minus : first = '-'
      · subst minus
        exact ⟨['-', second], ['0'], rfl, rfl⟩
      · exact ⟨[first], [second], by simp [halves?], by simp [pairOf, minus]⟩
  | [first, second, third] =>
      by_cases minus : first = '-'
      · subst minus
        exact ⟨['-', second], [third], rfl, rfl⟩
      · exact ⟨[first], [second, third], by simp [halves?], by simp [pairOf, minus]⟩
  | [first, second, third, fourth] =>
      exact ⟨[first, second], [third, fourth], rfl, by simp [pairOf]⟩
  | _ :: _ :: _ :: _ :: _ :: _ =>
      simp only [List.length_cons] at short
      omega

theorem halves?_of_long {word : Text} (long : 4 < word.length) : halves? word = none := by
  match word with
  | [] | [_] | [_, _] | [_, _, _] | [_, _, _, _] => simp at long
  | _ :: _ :: _ :: _ :: _ :: _ => simp [halves?]

theorem separateWord_eq (word : Text) (position : Nat) :
    separateWord word position =
      if isOverlong word then .error (.unrecognizedWord word position)
      else .ok (withComma word) := by
  by_cases compact : isCompact word = true
  · by_cases long : 4 < word.length
    · simp [separateWord, isOverlong, compact, long, halves?_of_long long]
    · obtain ⟨first, second, halves, pair⟩ := halves?_of_short compact (Nat.le_of_not_lt long)
      simp [separateWord, isOverlong, withComma, compact, long, halves, pair]
  · simp [separateWord, isOverlong, withComma, compact]

theorem mapM_separateWord (words : List Text) (start : Nat) :
    ((words.zipIdx start).mapM fun (word, position) => separateWord word position) =
      match (words.zipIdx start).find? fun (word, _) => isOverlong word with
      | some (word, position) => .error (.unrecognizedWord word position)
      | none => .ok (words.map withComma) := by
  induction words generalizing start with
  | nil => rfl
  | cons word rest ih =>
      simp only [List.zipIdx_cons, List.mapM_cons, List.find?_cons, ih]
      rw [separateWord_eq]
      cases isOverlong word with
      | true => rfl
      | false =>
          cases (rest.zipIdx (start + 1)).find? fun (word, _) => isOverlong word with
          | some => rfl
          | none => rfl

theorem separateNumbers_of_overlong {text word : Text} {position : Nat}
    (long : overlong? text = some (word, position)) :
    separateNumbers text = .error (.unrecognizedWord word position) := by
  rw [overlong?] at long
  rw [separateNumbers, mapM_separateWord, long]
  rfl

theorem separateNumbers_of_short {text : Text} (short : overlong? text = none) :
    separateNumbers text = .ok (Text.joinWith ' ' ((text.splitOn ' ').map withComma)) := by
  rw [overlong?] at short
  rw [separateNumbers, mapM_separateWord, short]
  rfl

theorem withComma_nil : withComma [] = [] := by
  decide

theorem mem_pairOf {word : Text} {char : Char} (member : char ∈ pairOf word) :
    char ∈ word ∨ char = ',' ∨ char = '0' := by
  simp only [pairOf, List.mem_append, List.mem_cons] at member
  generalize (if word.head? = some '-' ∨ word.length = 4 then 2 else 1) = cut at member
  rcases member with inFirst | comma | inSecond
  · exact .inl (List.mem_of_mem_take inFirst)
  · exact .inr (.inl comma)
  · split at inSecond
    · exact .inr (.inr (List.mem_singleton.mp inSecond))
    · exact .inl (List.mem_of_mem_drop inSecond)

theorem isWord_withComma {word : Text} (isWord : IsWord word) : IsWord (withComma word) := by
  by_cases compact : isCompact word = true
  · rw [withComma, if_pos compact]
    refine ⟨by simp [pairOf], fun char member => ?_⟩
    rcases mem_pairOf member with inWord | rfl | rfl
    · exact isWord.2 char inWord
    · decide
    · decide
  · rwa [withComma, if_neg compact]

theorem isCompact_of_comma {word : Text} (comma : ',' ∈ word) : isCompact word = false := by
  rw [isCompact, Numeral.isDigits, Bool.and_eq_false_iff]
  refine .inr (List.all_eq_false.mpr ⟨',', ?_, by decide⟩)
  exact (List.mem_erase_of_ne (by decide)).mpr comma

theorem withComma_of_comma {word : Text} (comma : ',' ∈ word) : withComma word = word := by
  rw [withComma, isCompact_of_comma comma, if_neg Bool.false_ne_true]

theorem isOverlong_of_comma {word : Text} (comma : ',' ∈ word) : isOverlong word = false := by
  rw [isOverlong, isCompact_of_comma comma, Bool.false_and]

theorem overlong?_eq_none_iff {text : Text} :
    overlong? text = none ↔ ∀ word ∈ text.splitOn ' ', isOverlong word = false := by
  rw [overlong?, List.find?_eq_none]
  constructor
  · intro none word member
    rw [← List.zipIdx_map_fst 0 (text.splitOn ' ')] at member
    obtain ⟨entry, entryMember, rfl⟩ := List.mem_map.mp member
    simpa using none entry entryMember
  · intro short entry member
    simpa using short entry.1 (List.fst_mem_of_mem_zipIdx member)

namespace Layout

def numbered (layout : Layout) : Layout :=
  { layout with words := layout.words.map withComma }

theorem numbered_wellFormed {layout : Layout} (wellFormed : layout.WellFormed) :
    layout.numbered.WellFormed where
  areWords := by
    intro word member
    obtain ⟨source, sourceMember, rfl⟩ := List.mem_map.mp member
    exact isWord_withComma (wellFormed.areWords source sourceMember)
  sameEdges := fun empty => wellFormed.sameEdges (List.map_eq_nil_iff.mp empty)

theorem numbered_pieces (layout : Layout) :
    layout.pieces.map withComma = layout.numbered.pieces := by
  have edges : ∀ present, (edge present).map withComma = edge present := by
    intro present
    cases present <;> simp [withComma_nil]
  simp [pieces, numbered, edges]

theorem joinWith_map_withComma {layout : Layout} (wellFormed : layout.WellFormed) :
    Text.joinWith ' ' (((layout.joined ' ').splitOn ' ').map withComma) =
      layout.numbered.joined ' ' := by
  by_cases empty : layout.pieces = []
  · rw [joined, joined, ← numbered_pieces, empty]
    decide
  · rw [splitOn_joined wellFormed (by decide) empty, numbered_pieces]
    rfl

theorem overlong?_joined_eq_none {layout : Layout} (wellFormed : layout.WellFormed) :
    overlong? (layout.joined ' ') = none ↔ ∀ word ∈ layout.words, isOverlong word = false := by
  have emptyShort : isOverlong [] = false := by decide
  rw [overlong?_eq_none_iff]
  by_cases empty : layout.pieces = []
  · have noWords : layout.words = [] := by
      simp only [pieces, List.append_eq_nil_iff] at empty
      exact empty.1.2
    rw [joined, empty, noWords]
    simp [emptyShort]
  · rw [splitOn_joined wellFormed (by decide) empty]
    constructor
    · intro short word member
      exact short word (by simp [pieces, member])
    · intro short piece member
      rcases mem_pieces member with rfl | inWords
      · exact emptyShort
      · exact short piece inWords

end Layout

end SquareOne.Scramble
