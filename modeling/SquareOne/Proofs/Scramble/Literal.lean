import SquareOne.Proofs.Scramble.Reversal

/-! Literal scrambles: pairs of numerals, bare or in parentheses, with slashes between them. -/

namespace SquareOne

namespace Scramble

theorem bare_joinWith {separator : Char} (gap : isSeparator separator = true)
    (pieces : List Text) :
    bare (Text.joinWith separator pieces) = Text.joinWith separator (pieces.map bare) := by
  induction pieces with
  | nil => rfl
  | cons piece rest ih =>
      cases rest with
      | nil => simp
      | cons next others =>
          rw [Text.joinWith_cons_cons, bare_append_gap gap, ih, List.map_cons,
            List.map_cons, List.map_cons, Text.joinWith_cons_cons]

theorem bare_blanks {gaps : Text} (blank : ∀ char ∈ gaps, Text.isBlank char = true) :
    bare gaps = gaps :=
  bare_eq_self fun char member =>
    not_parenthesis_of_gap (isSeparator_of_isBlank (blank char member))

/-- A word by itself, or set in parentheses. -/
def Encloses (text word : Text) : Prop :=
  text = word ∨ text = '(' :: word ++ [')']

theorem Encloses.bare_eq {text word : Text} (encloses : Encloses text word)
    (isWord : IsWord word) : bare text = word := by
  have inner : bare word = word := isWord.bare_eq
  rcases encloses with rfl | rfl
  · exact inner
  · have open' : bare ['('] = [] := rfl
    have close : bare [')'] = [] := rfl
    rw [← List.singleton_append (l := word), bare_append, bare_append, inner, open', close,
      List.nil_append, List.append_nil]

theorem Encloses.no_blank {text word : Text} (encloses : Encloses text word)
    (isWord : IsWord word) : ∀ char ∈ text, Text.isBlank char = false := by
  intro char member
  rcases encloses with rfl | rfl
  · exact isWord.no_blank char member
  · rw [List.mem_append, List.mem_cons, List.mem_singleton] at member
    rcases member with (rfl | inWord) | rfl
    · decide
    · exact isWord.no_blank char inWord
    · decide

theorem Encloses.no_slash {text word : Text} (encloses : Encloses text word)
    (isWord : IsWord word) : '/' ∉ text := by
  rcases encloses with rfl | rfl
  · exact isWord.no_slash
  · simp [isWord.no_slash]

theorem Encloses.ne_nil {text word : Text} (encloses : Encloses text word)
    (isWord : IsWord word) : text ≠ [] := by
  rcases encloses with rfl | rfl
  · exact isWord.1
  · exact List.cons_ne_nil _ _

/-- What stands between two slashes of a literal scramble: nothing, or a pair by itself or in
parentheses. -/
def IsFragment (text : Text) : Prop :=
  text = [] ∨ ∃ word, IsPair word ∧ Encloses text word

theorem IsFragment.no_blank {text : Text} (fragment : IsFragment text) :
    ∀ char ∈ text, Text.isBlank char = false := by
  rcases fragment with rfl | ⟨word, isPair, encloses⟩
  · simp
  · exact encloses.no_blank isPair.1

theorem IsFragment.no_slash {text : Text} (fragment : IsFragment text) : '/' ∉ text := by
  rcases fragment with rfl | ⟨word, isPair, encloses⟩
  · simp
  · exact encloses.no_slash isPair.1

theorem IsFragment.isPair_bare {text : Text} (fragment : IsFragment text) (nonempty : text ≠ []) :
    IsPair (bare text) := by
  rcases fragment with rfl | ⟨word, isPair, encloses⟩
  · exact absurd rfl nonempty
  · rwa [encloses.bare_eq isPair.1]

theorem wordsBy_bare_trim (text : Text) :
    (bare text).wordsBy isSeparator = (bare (Text.trim text)).wordsBy isSeparator := by
  obtain ⟨front, back, whole, frontBlank, backBlank⟩ := Text.exists_trim text
  have split := congrArg bare whole
  rw [bare_append, bare_append, bare_blanks frontBlank, bare_blanks backBlank] at split
  rw [split,
    Text.wordsBy_gaps_append fun char member => isSeparator_of_isBlank (frontBlank char member),
    Text.wordsBy_append_gaps fun char member => isSeparator_of_isBlank (backBlank char member)]

theorem IsFragment.wordsBy_bare {text : Text} (fragment : IsFragment text) :
    (bare text).wordsBy isSeparator = if text.isEmpty then [] else [bare text] := by
  by_cases empty : text = []
  · subst empty
    rfl
  · have isPair := fragment.isPair_bare empty
    rw [Text.wordsBy_of_solid isPair.1.1 fun char member => (isPair.1.2 char member).1,
      if_neg (by simpa using empty)]

namespace Layout

/-- The layout of fragments with slashes between them. -/
def ofFragments (fragments : List Text) : Layout where
  lead := decide (1 < fragments.length) && fragments.head? == some []
  words := (fragments.filter fun fragment => !fragment.isEmpty).map bare
  trail := decide (1 < fragments.length) && fragments.getLast? == some []

end Layout

/-- Fragments with blanks around them, but none at an end of the whole text unless there is nothing
else before the first slash or behind the last one. -/
structure Spaced (fragments : List Text) : Prop where
  areFragments : ∀ fragment ∈ fragments, IsFragment (Text.trim fragment)
  starts : ∀ fragment, fragments.head? = some fragment →
    fragment.head?.any Text.isBlank = false ∨ Text.trim fragment = [] ∧ 1 < fragments.length
  ends : ∀ fragment, fragments.getLast? = some fragment →
    fragment.getLast?.any Text.isBlank = false ∨ Text.trim fragment = [] ∧ 1 < fragments.length

theorem Spaced.words_eq {fragments : List Text} (spaced : Spaced fragments) :
    (bare (Text.joinWith '/' fragments)).wordsBy isSeparator =
      (Layout.ofFragments (fragments.map Text.trim)).words := by
  have areFragments := spaced.areFragments
  clear spaced
  rw [bare_joinWith (by decide), Text.wordsBy_joinWith (by decide), List.flatMap_map,
    Layout.ofFragments]
  induction fragments with
  | nil => rfl
  | cons fragment rest ih =>
      have others := ih fun other member => areFragments other (List.mem_cons_of_mem _ member)
      have first := (areFragments fragment (by simp)).wordsBy_bare
      rw [List.flatMap_cons, wordsBy_bare_trim, first, others, List.map_cons, List.filter_cons]
      cases (Text.trim fragment).isEmpty <;> simp

section Edges

variable {text : Text} (fragment : IsFragment (Text.trim text))
include fragment

theorem head_bare (solid : text.head?.any Text.isBlank = false) :
    (bare text).head?.any isSeparator = false := by
  obtain ⟨back, whole, backBlank⟩ := Text.exists_trim_of_head solid
  by_cases empty : Text.trim text = []
  · have blank := Text.blank_of_trim_eq_nil empty
    cases text with
    | nil => rfl
    | cons char others =>
        exact absurd ((blank char List.mem_cons_self).symm.trans solid) (by decide)
  · obtain ⟨nonempty, isWord⟩ := (fragment.isPair_bare empty).1
    rw [whole, bare_append, List.head?_append_of_ne_nil _ nonempty,
      List.head?_eq_some_head nonempty]
    exact (isWord _ (List.head_mem nonempty)).1

theorem last_bare (solid : text.getLast?.any Text.isBlank = false) :
    (bare text).getLast?.any isSeparator = false := by
  obtain ⟨front, whole, frontBlank⟩ := Text.exists_trim_of_last solid
  by_cases empty : Text.trim text = []
  · have blank := Text.blank_of_trim_eq_nil empty
    rcases List.eq_nil_or_concat text with rfl | ⟨others, char, rfl⟩
    · rfl
    · rw [List.concat_eq_append] at solid blank
      rw [List.getLast?_concat] at solid
      exact absurd ((blank char (by simp)).symm.trans solid) (by decide)
  · obtain ⟨nonempty, isWord⟩ := (fragment.isPair_bare empty).1
    rw [whole, bare_append, List.getLast?_append_of_ne_nil _ nonempty,
      List.getLast?_eq_some_getLast nonempty]
    exact (isWord _ (List.getLast_mem nonempty)).1

theorem bare_ne_nil (nonempty : Text.trim text ≠ []) : bare text ≠ [] := by
  obtain ⟨front, back, whole, -, -⟩ := Text.exists_trim text
  rw [whole, bare_append, bare_append]
  simp [(fragment.isPair_bare nonempty).1.1]

theorem head_slash (starts : text.head?.any Text.isBlank = false ∨ Text.trim text = [])
    (rest : Text) :
    (bare text ++ '/' :: rest).head?.any isSeparator = (Text.trim text == []) := by
  by_cases empty : Text.trim text = []
  · have blank := Text.blank_of_trim_eq_nil empty
    rw [bare_blanks blank, empty]
    cases text with
    | nil => rfl
    | cons char others => exact isSeparator_of_isBlank (blank char List.mem_cons_self)
  · rw [List.head?_append_of_ne_nil _ (bare_ne_nil fragment empty),
      head_bare fragment (starts.resolve_right empty)]
    simp [empty]

theorem last_slash (ends : text.getLast?.any Text.isBlank = false ∨ Text.trim text = [])
    (front : Text) :
    (front ++ '/' :: bare text).getLast?.any isSeparator = (Text.trim text == []) := by
  by_cases empty : Text.trim text = []
  · have blank := Text.blank_of_trim_eq_nil empty
    rw [bare_blanks blank, empty]
    rcases List.eq_nil_or_concat text with rfl | ⟨others, char, rfl⟩
    · rw [List.getLast?_concat]
      rfl
    · rw [List.concat_eq_append] at blank ⊢
      rw [← List.cons_append, ← List.append_assoc, List.getLast?_concat]
      exact isSeparator_of_isBlank (blank char (by simp))
  · rw [List.append_cons, List.getLast?_append_of_ne_nil _ (bare_ne_nil fragment empty),
      last_bare fragment (ends.resolve_right empty)]
    simp [empty]

end Edges

theorem Spaced.lead_eq {fragments : List Text} (spaced : Spaced fragments) :
    (bare (Text.joinWith '/' fragments)).head?.any isSeparator =
      (Layout.ofFragments (fragments.map Text.trim)).lead := by
  cases fragments with
  | nil => rfl
  | cons fragment rest =>
      have isFragment := spaced.areFragments fragment (by simp)
      have starts := spaced.starts fragment rfl
      cases rest with
      | nil =>
          have solid : fragment.head?.any Text.isBlank = false := by simpa using starts
          simpa [Layout.ofFragments] using head_bare isFragment solid
      | cons next others =>
          rw [bare_joinWith (by decide), List.map_cons, List.map_cons, Text.joinWith_cons_cons,
            head_slash isFragment (starts.imp_right And.left)]
          simp [Layout.ofFragments]

theorem Spaced.trail_eq {fragments : List Text} (spaced : Spaced fragments) :
    (bare (Text.joinWith '/' fragments)).getLast?.any isSeparator =
      (Layout.ofFragments (fragments.map Text.trim)).trail := by
  rcases List.eq_nil_or_concat fragments with rfl | ⟨init, fragment, rfl⟩
  · rfl
  · rw [List.concat_eq_append] at spaced ⊢
    have isFragment := spaced.areFragments fragment (by simp)
    have ends := spaced.ends fragment List.getLast?_concat
    cases init with
    | nil =>
        have solid : fragment.getLast?.any Text.isBlank = false := by simpa using ends
        simpa [Layout.ofFragments] using last_bare isFragment solid
    | cons first others =>
        have last : ((first :: others ++ [fragment]).map Text.trim).getLast? =
            some (Text.trim fragment) := by
          rw [List.map_append, List.map_singleton, List.getLast?_concat]
        rw [bare_joinWith (by decide), List.map_append, List.map_singleton,
          Text.joinWith_append (by simp) (by simp), Text.joinWith_singleton,
          last_slash isFragment (ends.imp_right And.left)]
        simp only [Layout.ofFragments, last]
        simp

theorem Spaced.ofText_eq {fragments : List Text} (spaced : Spaced fragments) :
    Layout.ofText (Text.joinWith '/' fragments) =
      Layout.ofFragments (fragments.map Text.trim) := by
  have words := spaced.words_eq
  have lead := spaced.lead_eq
  have trail := spaced.trail_eq
  rw [Layout.ofText, words, lead, trail]

theorem Spaced.isCanonical {fragments : List Text} (spaced : Spaced fragments) :
    (Layout.ofFragments (fragments.map Text.trim)).IsCanonical where
  arePairs := by
    intro word member
    obtain ⟨fragment, inFragments, rfl⟩ := List.mem_map.mp member
    obtain ⟨inTrimmed, nonempty⟩ := List.mem_filter.mp inFragments
    obtain ⟨source, sourceMember, rfl⟩ := List.mem_map.mp inTrimmed
    exact (spaced.areFragments source sourceMember).isPair_bare (by simpa using nonempty)
  sameEdges := by
    rw [← spaced.ofText_eq]
    exact (Layout.ofText_wellFormed _).sameEdges

theorem Spaced.expand_eq {fragments : List Text} (spaced : Spaced fragments) :
    expand (Text.joinWith '/' fragments) =
      .ok ((Layout.ofFragments (fragments.map Text.trim)).joined '/') := by
  have canonical := spaced.isCanonical
  rw [← spaced.ofText_eq] at canonical ⊢
  exact expand_of_isCanonical canonical

theorem spaced_of_areFragments {fragments : List Text}
    (areFragments : ∀ fragment ∈ fragments, IsFragment fragment) :
    Spaced fragments ∧ fragments.map Text.trim = fragments := by
  have trimmed : ∀ fragment ∈ fragments, Text.trim fragment = fragment := fun fragment member =>
    Text.trim_of_solid (areFragments fragment member).no_blank
  refine ⟨⟨fun fragment member => ?_, fun fragment first => .inl ?_, fun fragment last => .inl ?_⟩,
    (List.map_congr_left trimmed).trans (List.map_id _)⟩
  · rw [trimmed fragment member]
    exact areFragments fragment member
  · exact Text.head?_of_solid (areFragments fragment (List.mem_of_head? first)).no_blank
  · exact Text.getLast?_of_solid (areFragments fragment (List.mem_of_getLast? last)).no_blank

/-- Two numerals with a comma between them, by themselves or in parentheses. -/
def IsLiteralTurn (text : Text) : Prop :=
  ∃ top bottom, (Numeral.read? top).isSome ∧ (Numeral.read? bottom).isSome ∧
    Encloses text (top ++ ',' :: bottom)

theorem isDigit_of_mem_digits {digits : Text} (read : (Numeral.readDigits? digits).isSome) :
    ∀ char ∈ digits, char.isDigit = true := by
  rw [Numeral.readDigits?] at read
  split at read
  · rename_i isDigits
    rw [Numeral.isDigits, Bool.and_eq_true, List.all_eq_true] at isDigits
    exact isDigits.2
  · cases read

def IsNumeralChar (char : Char) : Prop :=
  char = '+' ∨ char = '-' ∨ char.isDigit = true

theorem mem_numeral {text : Text} (read : (Numeral.read? text).isSome) :
    ∀ char ∈ text, IsNumeralChar char := by
  unfold Numeral.read? at read
  split at read <;> rw [Option.isSome_map] at read <;> have digits := isDigit_of_mem_digits read
  · exact List.forall_mem_cons.mpr ⟨.inl rfl, fun char member => .inr (.inr (digits char member))⟩
  · exact List.forall_mem_cons.mpr
      ⟨.inr (.inl rfl), fun char member => .inr (.inr (digits char member))⟩
  · exact fun char member => .inr (.inr (digits char member))

theorem IsNumeralChar.wordChar {char : Char} (shape : IsNumeralChar char) :
    isSeparator char = false ∧ isParenthesis char = false ∧ char ≠ ',' := by
  rcases shape with rfl | rfl | digit
  · decide
  · decide
  · refine ⟨(wordChar_of_isDigit digit).1, (wordChar_of_isDigit digit).2, ?_⟩
    rintro rfl
    exact absurd digit (by decide)

section Pairs

variable {top bottom : Text}

section Chars

variable (topChars : ∀ char ∈ top, IsNumeralChar char)
  (bottomChars : ∀ char ∈ bottom, IsNumeralChar char)
include topChars bottomChars

theorem isPair_of_numeralChars : IsPair (top ++ ',' :: bottom) := by
  refine ⟨⟨by simp, fun char member => ?_⟩, by simp⟩
  rw [List.mem_append, List.mem_cons] at member
  rcases member with inTop | rfl | inBottom
  · exact ⟨(topChars char inTop).wordChar.1, (topChars char inTop).wordChar.2.1⟩
  · decide
  · exact ⟨(bottomChars char inBottom).wordChar.1, (bottomChars char inBottom).wordChar.2.1⟩

theorem read?_of_numeralChars :
    Turn.read? (top ++ ',' :: bottom) =
      do return ⟨← Numeral.read? top, ← Numeral.read? bottom⟩ := by
  have isWord := (isPair_of_numeralChars topChars bottomChars).1
  have trimmed : ∀ {text : Text}, (∀ char ∈ text, IsNumeralChar char) → Text.trim text = text :=
    fun chars => Text.trim_of_solid fun char member =>
      not_blank_of_solid (chars char member).wordChar.1
  have noComma : ∀ {text : Text}, (∀ char ∈ text, IsNumeralChar char) → ',' ∉ text :=
    fun chars member => (chars ',' member).wordChar.2.2 rfl
  have cut : (top ++ ',' :: bottom).splitOn ',' = [top, bottom] := by
    rw [List.splitOn_append_cons_self_of_not_mem (noComma topChars),
      List.splitOn_eq_singleton (noComma bottomChars)]
  rw [Turn.read?, isWord.bare_eq, cut]
  simp only [trimmed topChars, trimmed bottomChars]

end Chars

theorem isPair_of_numerals (topRead : (Numeral.read? top).isSome)
    (bottomRead : (Numeral.read? bottom).isSome) : IsPair (top ++ ',' :: bottom) :=
  isPair_of_numeralChars (mem_numeral topRead) (mem_numeral bottomRead)

theorem read?_of_numerals {turn : Turn} (topRead : Numeral.read? top = some turn.top)
    (bottomRead : Numeral.read? bottom = some turn.bottom) :
    Turn.read? (top ++ ',' :: bottom) = some turn := by
  rw [read?_of_numeralChars (mem_numeral (Option.isSome_of_eq_some topRead))
    (mem_numeral (Option.isSome_of_eq_some bottomRead)), topRead, bottomRead]
  rfl

end Pairs

theorem IsLiteralTurn.isFragment {text : Text} (literal : IsLiteralTurn text) :
    IsFragment text := by
  obtain ⟨top, bottom, topRead, bottomRead, encloses⟩ := literal
  exact .inr ⟨_, isPair_of_numerals topRead bottomRead, encloses⟩

/-- Parentheses around a pair make no difference to what is read. -/
theorem Encloses.readAll_eq {text word : Text} (encloses : Encloses text word)
    (isPair : IsPair word) :
    Move.readAll text = ((Turn.read? word).map Move.turn).toList := by
  rw [Move.readAll_of_solid (encloses.ne_nil isPair.1) (encloses.no_slash isPair.1)
    (encloses.no_blank isPair.1), ← Turn.read?_bare, encloses.bare_eq isPair.1]

theorem IsLiteralTurn.read? {text : Text} (literal : IsLiteralTurn text) :
    ∃ turn, Turn.read? text = some turn := by
  obtain ⟨top, bottom, topRead, bottomRead, encloses⟩ := literal
  have isWord := (isPair_of_numerals topRead bottomRead).1
  obtain ⟨topValue, topEq⟩ := Option.isSome_iff_exists.mp topRead
  obtain ⟨bottomValue, bottomEq⟩ := Option.isSome_iff_exists.mp bottomRead
  have read : Turn.read? (top ++ ',' :: bottom) = some ⟨topValue, bottomValue⟩ :=
    read?_of_numerals topEq bottomEq
  exact ⟨_, by rw [← Turn.read?_bare, encloses.bare_eq isWord, read]⟩

end Scramble

end SquareOne
