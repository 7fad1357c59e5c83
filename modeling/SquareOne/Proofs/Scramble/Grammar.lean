import Mathlib.Data.List.Induction
import SquareOne.Proofs.Scramble.Literal

/-! The grammar of scramble text, given without reading: which words spell a turn, and which moves a
text stands for. Reading finds exactly those moves.
-/

namespace SquareOne

namespace Numeral

variable {text : Text}

/-- The number that a run of digits spells. A digit behind it makes ten times as much of it. -/
inductive SpellsNat : Text → Nat → Prop
  | digit {char : Char} (isDigit : char.isDigit = true) :
      SpellsNat [char] (char.toNat - '0'.toNat)
  | snoc {digits : Text} {value : Nat} {char : Char} (front : SpellsNat digits value)
      (isDigit : char.isDigit = true) :
      SpellsNat (digits ++ [char]) (10 * value + (char.toNat - '0'.toNat))

/-- The number that a run of digits spells behind an optional sign. -/
inductive Spells : Text → Int → Prop
  | unsigned {digits : Text} {value : Nat} (spelled : SpellsNat digits value) : Spells digits value
  | plus {digits : Text} {value : Nat} (spelled : SpellsNat digits value) :
      Spells ('+' :: digits) value
  | minus {digits : Text} {value : Nat} (spelled : SpellsNat digits value) :
      Spells ('-' :: digits) (-value)

theorem spellsNat_ofDigitChars (nonempty : text ≠ []) (digits : ∀ char ∈ text, char.isDigit = true) :
    SpellsNat text (Nat.ofDigitChars 10 text 0) := by
  -- The value is folded from the left, so that the last digit is the one to take off.
  induction text using List.reverseRecOn with
  | nil => exact absurd rfl nonempty
  | append_singleton front char ih =>
      have isDigit := digits char (List.mem_append_right front (List.mem_singleton_self char))
      rw [Nat.ofDigitChars_append, Nat.ofDigitChars_cons, Nat.ofDigitChars_nil]
      cases front with
      | nil => simpa using SpellsNat.digit isDigit
      | cons first others =>
          exact .snoc (ih (List.cons_ne_nil first others) fun other member =>
            digits other (List.mem_append_left [char] member)) isDigit

theorem SpellsNat.isDigits_ofDigitChars {value : Nat} (spelled : SpellsNat text value) :
    isDigits text = true ∧ Nat.ofDigitChars 10 text 0 = value := by
  induction spelled with
  | digit isDigit => exact ⟨by simpa [isDigits] using isDigit, by simp [Nat.ofDigitChars_cons]⟩
  | @snoc digits value char _ isDigit ih =>
      obtain ⟨areDigits, rfl⟩ := ih
      rw [isDigits, Bool.and_eq_true] at areDigits
      constructor
      · simp [isDigits, areDigits.2, isDigit]
      · rw [Nat.ofDigitChars_append, Nat.ofDigitChars_cons, Nat.ofDigitChars_nil]

theorem readDigits?_eq_some_iff {value : Nat} :
    readDigits? text = some value ↔ SpellsNat text value := by
  constructor
  · intro read
    rw [readDigits?] at read
    split at read
    · rename_i areDigits
      rw [isDigits, Bool.and_eq_true, Bool.not_eq_true', List.isEmpty_eq_false_iff,
        List.all_eq_true] at areDigits
      cases read
      exact spellsNat_ofDigitChars areDigits.1 areDigits.2
    · cases read
  · intro spelled
    obtain ⟨areDigits, rfl⟩ := spelled.isDigits_ofDigitChars
    rw [readDigits?, if_pos areDigits]

theorem read?_eq_some_iff {value : Int} : read? text = some value ↔ Spells text value := by
  constructor
  · intro read
    unfold read? at read
    split at read <;> obtain ⟨magnitude, digits, rfl⟩ := Option.map_eq_some_iff.mp read
    · exact .plus (readDigits?_eq_some_iff.mp digits)
    · exact .minus (readDigits?_eq_some_iff.mp digits)
    · exact .unsigned (readDigits?_eq_some_iff.mp digits)
  · intro spelled
    cases spelled with
    | unsigned spelled =>
        rw [read?_of_isDigits spelled.isDigits_ofDigitChars.1, readDigits?_eq_some_iff.mpr spelled]
        rfl
    | plus spelled => simp [read?, readDigits?_eq_some_iff.mpr spelled]
    | minus spelled => simp [read?, readDigits?_eq_some_iff.mpr spelled]

end Numeral

namespace Turn

open Scramble (bare mem_bare Encloses)

variable {turn : Turn} {word : Text}

/-- What a word without its parentheses spells: two numerals with a comma between them. -/
def SpelledBy (turn : Turn) (word : Text) : Prop :=
  ∃ top bottom, bare word = top ++ ',' :: bottom ∧
    Numeral.Spells top turn.top ∧ Numeral.Spells bottom turn.bottom

theorem read?_eq_some_iff (solid : ∀ char ∈ word, Text.isBlank char = false) :
    read? word = some turn ↔ turn.SpelledBy word := by
  constructor
  · intro read
    rw [read?] at read
    split at read
    · rename_i top bottom cut
      have whole : bare word = top ++ ',' :: bottom := by
        rw [← Text.joinWith_splitOn ',' (bare word), cut, Text.joinWith_cons_cons,
          Text.joinWith_singleton]
      have trimmed : ∀ piece : Text, piece ⊆ top ++ ',' :: bottom → Text.trim piece = piece := by
        rw [← whole]
        exact fun piece inWord => Text.trim_of_solid fun char member =>
          solid char (mem_bare.mp (inWord member)).1
      rw [trimmed top (List.subset_append_left ..),
        trimmed bottom (List.subset_append_of_subset_right top (List.subset_cons_self ..))] at read
      simp only [Option.bind_eq_bind, Option.bind_eq_some_iff, Option.pure_def,
        Option.some.injEq] at read
      obtain ⟨first, topRead, second, bottomRead, rfl⟩ := read
      exact ⟨top, bottom, whole, Numeral.read?_eq_some_iff.mp topRead,
        Numeral.read?_eq_some_iff.mp bottomRead⟩
    · cases read
  · rintro ⟨top, bottom, whole, topSpelled, bottomSpelled⟩
    rw [← read?_bare, whole]
    exact Scramble.read?_of_numerals (Numeral.read?_eq_some_iff.mpr topSpelled)
      (Numeral.read?_eq_some_iff.mpr bottomSpelled)

/-- A turn in print: two numerals with a comma between them, by themselves or in parentheses. -/
def PrintedBy (turn : Turn) (word : Text) : Prop :=
  ∃ top bottom, Encloses word (top ++ ',' :: bottom) ∧
    Numeral.Spells top turn.top ∧ Numeral.Spells bottom turn.bottom

theorem isLiteralTurn_iff : Scramble.IsLiteralTurn word ↔ ∃ turn : Turn, turn.PrintedBy word := by
  constructor
  · rintro ⟨top, bottom, topRead, bottomRead, encloses⟩
    obtain ⟨first, topEq⟩ := Option.isSome_iff_exists.mp topRead
    obtain ⟨second, bottomEq⟩ := Option.isSome_iff_exists.mp bottomRead
    exact ⟨⟨first, second⟩, top, bottom, encloses, Numeral.read?_eq_some_iff.mp topEq,
      Numeral.read?_eq_some_iff.mp bottomEq⟩
  · rintro ⟨turn, top, bottom, encloses, topSpelled, bottomSpelled⟩
    exact ⟨top, bottom, Option.isSome_of_eq_some (Numeral.read?_eq_some_iff.mpr topSpelled),
      Option.isSome_of_eq_some (Numeral.read?_eq_some_iff.mpr bottomSpelled), encloses⟩

theorem PrintedBy.spelledBy (printed : turn.PrintedBy word) : turn.SpelledBy word := by
  obtain ⟨top, bottom, encloses, topSpelled, bottomSpelled⟩ := printed
  have isPair := Scramble.isPair_of_numerals
    (Option.isSome_of_eq_some (Numeral.read?_eq_some_iff.mpr topSpelled))
    (Option.isSome_of_eq_some (Numeral.read?_eq_some_iff.mpr bottomSpelled))
  exact ⟨top, bottom, encloses.bare_eq isPair.1, topSpelled, bottomSpelled⟩

theorem printedBy_write (turn : Turn) : turn.PrintedBy turn.write :=
  ⟨_, _, .inl rfl, Numeral.read?_eq_some_iff.mp (Numeral.read?_write turn.top),
    Numeral.read?_eq_some_iff.mp (Numeral.read?_write turn.bottom)⟩

end Turn

namespace Move

variable {text word rest : Text} {moves : List Move}

/-- A word goes on to the next slash or blank. -/
def endsWord (char : Char) : Bool :=
  char == '/' || Text.isBlank char

/-- The moves that a text stands for. Words that spell no turn are passed over. -/
inductive Denotes : Text → List Move → Prop
  | nil : Denotes [] []
  | blank {gap : Char} {rest : Text} {moves : List Move} (blank : Text.isBlank gap = true)
      (behind : Denotes rest moves) : Denotes (gap :: rest) moves
  | slash {rest : Text} {moves : List Move} (behind : Denotes rest moves) :
      Denotes ('/' :: rest) (.swap :: moves)
  | turn {word rest : Text} {moves : List Move} {offsets : Turn}
      (solid : ∀ char ∈ word, endsWord char = false) (spelled : offsets.SpelledBy word)
      (parted : rest.head?.all endsWord = true) (behind : Denotes rest moves) :
      Denotes (word ++ rest) (.turn offsets :: moves)
  | other {word rest : Text} {moves : List Move} (nonempty : word ≠ [])
      (solid : ∀ char ∈ word, endsWord char = false) (unspelled : ∀ turn : Turn, ¬turn.SpelledBy word)
      (parted : rest.head?.all endsWord = true) (behind : Denotes rest moves) :
      Denotes (word ++ rest) moves

/-- Moves in print. Blanks may stand anywhere between them; they have to where two turns would
otherwise run together. -/
inductive Prints : List Move → Text → Prop
  | nil : Prints [] []
  | blank {gap : Char} {moves : List Move} {rest : Text} (blank : Text.isBlank gap = true)
      (behind : Prints moves rest) : Prints moves (gap :: rest)
  | swap {moves : List Move} {rest : Text} (behind : Prints moves rest) :
      Prints (.swap :: moves) ('/' :: rest)
  | turn {offsets : Turn} {word rest : Text} {moves : List Move} (printed : offsets.PrintedBy word)
      (parted : rest.head?.all endsWord = true) (behind : Prints moves rest) :
      Prints (.turn offsets :: moves) (word ++ rest)

theorem endsWord_eq_false {char : Char} :
    endsWord char = false ↔ char ≠ '/' ∧ Text.isBlank char = false := by
  rw [endsWord, Bool.or_eq_false_iff, beq_eq_false_iff_ne]

theorem readAll_cons_slash (rest : Text) : readAll ('/' :: rest) = .swap :: readAll rest :=
  readAll_append_slash [] rest

theorem readAll_append_of_endsWord (parted : rest.head?.all endsWord = true) (first : Text) :
    readAll (first ++ rest) = readAll first ++ readAll rest := by
  cases rest with
  | nil => rw [List.append_nil, readAll_nil, List.append_nil]
  | cons char rest =>
      have ends : endsWord char = true := parted
      rw [endsWord, Bool.or_eq_true, beq_iff_eq] at ends
      rcases ends with rfl | blank
      · rw [readAll_append_slash, readAll_cons_slash]
      · rw [readAll_append_blank blank, readAll_cons_blank blank]

section Words

variable (solid : ∀ char ∈ word, endsWord char = false)
include solid

theorem readAll_of_spelledBy {offsets : Turn} (spelled : offsets.SpelledBy word) :
    readAll word = [.turn offsets] := by
  have noBlank : ∀ char ∈ word, Text.isBlank char = false := fun char member =>
    (endsWord_eq_false.mp (solid char member)).2
  have read := (Turn.read?_eq_some_iff noBlank).mpr spelled
  have nonempty : word ≠ [] := by
    rintro rfl
    cases read
  have noSlash : '/' ∉ word := fun member => (endsWord_eq_false.mp (solid _ member)).1 rfl
  rw [readAll_of_solid nonempty noSlash noBlank, read]
  rfl

theorem readAll_of_unspelled (nonempty : word ≠ [])
    (unspelled : ∀ turn : Turn, ¬turn.SpelledBy word) : readAll word = [] := by
  have noBlank : ∀ char ∈ word, Text.isBlank char = false := fun char member =>
    (endsWord_eq_false.mp (solid char member)).2
  have unread : Turn.read? word = none := Option.eq_none_iff_forall_ne_some.mpr fun turn read =>
    unspelled turn ((Turn.read?_eq_some_iff noBlank).mp read)
  have noSlash : '/' ∉ word := fun member => (endsWord_eq_false.mp (solid _ member)).1 rfl
  rw [readAll_of_solid nonempty noSlash noBlank, unread]
  rfl

end Words

theorem Denotes.readAll_eq (denotes : Denotes text moves) : readAll text = moves := by
  induction denotes with
  | nil => rfl
  | blank blank _ ih => rw [readAll_cons_blank blank, ih]
  | slash _ ih => rw [readAll_cons_slash, ih]
  | turn solid spelled parted _ ih =>
      rw [readAll_append_of_endsWord parted, readAll_of_spelledBy solid spelled, ih,
        List.singleton_append]
  | other nonempty solid unspelled parted _ ih =>
      rw [readAll_append_of_endsWord parted, readAll_of_unspelled solid nonempty unspelled, ih,
        List.nil_append]

theorem exists_denotes (text : Text) : ∃ moves, Denotes text moves := by
  induction text using Text.wordInduction endsWord with
  | nil => exact ⟨[], .nil⟩
  | gap char rest ends ih =>
      obtain ⟨moves, behind⟩ := ih
      rw [endsWord, Bool.or_eq_true, beq_iff_eq] at ends
      rcases ends with rfl | blank
      · exact ⟨_, .slash behind⟩
      · exact ⟨_, .blank blank behind⟩
  | word word rest nonempty solid parted ih =>
      obtain ⟨moves, behind⟩ := ih
      by_cases spelled : ∃ turn : Turn, turn.SpelledBy word
      · obtain ⟨turn, spelled⟩ := spelled
        exact ⟨_, .turn solid spelled parted behind⟩
      · exact ⟨_, .other nonempty solid (not_exists.mp spelled) parted behind⟩

/-- Reading a text gives the moves that it stands for, and no others. -/
theorem readAll_eq_iff : readAll text = moves ↔ Denotes text moves := by
  refine ⟨?_, Denotes.readAll_eq⟩
  rintro rfl
  obtain ⟨moves, denotes⟩ := exists_denotes text
  rwa [denotes.readAll_eq]

theorem Prints.denotes (prints : Prints moves text) : Denotes text moves := by
  induction prints with
  | nil => exact .nil
  | blank blank _ ih => exact .blank blank ih
  | swap _ ih => exact .slash ih
  | turn printed parted _ ih =>
      have isFragment := (Turn.isLiteralTurn_iff.mpr ⟨_, printed⟩).isFragment
      refine .turn (fun char member => endsWord_eq_false.mpr ⟨?_, ?_⟩) printed.spelledBy parted ih
      · rintro rfl
        exact isFragment.no_slash member
      · exact isFragment.no_blank char member

theorem prints_joinWith_space (moves : List Move) :
    Prints moves (Text.joinWith ' ' (moves.map write)) := by
  have one : ∀ (move : Move) (others : List Move) (rest : Text), rest.head?.all endsWord = true →
      Prints others rest → Prints (move :: others) (move.write ++ rest) := by
    intro move others rest parted behind
    cases move with
    | turn offsets => exact .turn offsets.printedBy_write parted behind
    | swap => exact .swap behind
  induction moves with
  | nil => exact .nil
  | cons move others ih =>
      cases others with
      | nil => simpa using one move [] [] rfl .nil
      | cons next others =>
          rw [List.map_cons, List.map_cons, Text.joinWith_cons_cons]
          have spaceEnds : endsWord ' ' = true := by decide
          exact one move _ _ spaceEnds (.blank (by decide) ih)

/-- Reading is a homomorphism: a slash adds a swap between what stands on its two sides, and blanks
add nothing. A word between them is a turn when, without parentheses, it is two numerals with a
comma between them; otherwise it is nothing. Hence moves in print are read back. -/
theorem readAll_grammar :
    (∀ first second : Text,
      readAll (first ++ '/' :: second) = readAll first ++ [.swap] ++ readAll second) ∧
    (∀ first gap second : Text, gap ≠ [] → (∀ char ∈ gap, Text.isBlank char = true) →
      readAll (first ++ gap ++ second) = readAll first ++ readAll second) ∧
    (∀ word : Text, word ≠ [] → '/' ∉ word → (∀ char ∈ word, Text.isBlank char = false) →
      (∀ turn : Turn, readAll word = [.turn turn] ↔ turn.SpelledBy word) ∧
        ((∀ turn : Turn, ¬turn.SpelledBy word) → readAll word = [])) ∧
    (∀ moves text, Prints moves text → readAll text = moves) ∧
    ∀ moves, Prints moves (Text.joinWith ' ' (moves.map write)) := by
  refine ⟨fun first second => ?_, fun first gap second nonempty blank => ?_,
    fun word nonempty noSlash noBlank => ?_, fun moves text prints => prints.denotes.readAll_eq,
    prints_joinWith_space⟩
  · rw [readAll_append_slash, List.append_assoc, List.singleton_append]
  · obtain ⟨char, others, rfl⟩ := List.exists_cons_of_ne_nil nonempty
    have parted : (char :: others ++ second).head?.all Text.isBlank = true :=
      blank char List.mem_cons_self
    rw [List.append_assoc, readAll_append_of_head parted, readAll_gaps_append blank]
  · have solid : ∀ char ∈ word, endsWord char = false := fun char member =>
      endsWord_eq_false.mpr ⟨fun same => noSlash (same ▸ member), noBlank char member⟩
    refine ⟨fun turn => ⟨fun read => ?_, readAll_of_spelledBy solid⟩,
      readAll_of_unspelled solid nonempty⟩
    rw [readAll_of_solid nonempty noSlash noBlank] at read
    refine (Turn.read?_eq_some_iff noBlank).mp ?_
    cases found : Turn.read? word with
    | none => simp [found] at read
    | some other => simpa [found] using read

theorem readAll_grammar_run :
    readAll ("1,0".toList ++ " \t".toList ++ "x".toList) =
        readAll "1,0".toList ++ readAll "x".toList ∧
      (readAll "(+1,((007)".toList = [.turn ⟨1, 7⟩] ∧ readAll "1,,0".toList = []) ∧
      readAll "(1,0)/ -2,3\t0,6".toList =
        [.turn ⟨1, 0⟩, .swap, .turn ⟨-2, 3⟩, .turn ⟨0, 6⟩] := by
  obtain ⟨-, blanks, words, printed, -⟩ := readAll_grammar
  have spells : ∀ {text : Text} {value : Int}, Numeral.read? text = some value →
      Numeral.Spells text value := Numeral.read?_eq_some_iff.mp
  refine ⟨blanks _ _ _ (by decide) (Text.forall_mem_of_all (by decide)), ⟨?_, ?_⟩, printed _ _ ?_⟩
  · have turns := words "(+1,((007)".toList (by decide) (by decide)
      (Text.forall_mem_of_all (by decide))
    refine (turns.1 ⟨1, 7⟩).mpr ?_
    exact ⟨"+1".toList, "007".toList, by decide, spells (by decide), spells (by decide)⟩
  · have solid := @Text.forall_mem_of_all (Text.isBlank · = false) _ "1,,0".toList (by decide)
    refine (words _ (by decide) (by decide) solid).2 fun turn spelled => ?_
    have read := (Turn.read?_eq_some_iff solid).mpr spelled
    exact absurd (read.symm.trans (by decide : Turn.read? "1,,0".toList = none)) (by simp)
  · have first : Turn.PrintedBy ⟨1, 0⟩ "(1,0)".toList :=
      ⟨"1".toList, "0".toList, .inr (by decide), spells (by decide), spells (by decide)⟩
    have second : Turn.PrintedBy ⟨-2, 3⟩ "-2,3".toList :=
      ⟨"-2".toList, "3".toList, .inl (by decide), spells (by decide), spells (by decide)⟩
    have third : Turn.PrintedBy ⟨0, 6⟩ "0,6".toList :=
      ⟨"0".toList, "6".toList, .inl (by decide), spells (by decide), spells (by decide)⟩
    exact .turn first (by decide) (.swap (.blank (by decide) (.turn second (by decide)
      (.blank (by decide) (.turn third (by decide) .nil)))))

end Move

end SquareOne
