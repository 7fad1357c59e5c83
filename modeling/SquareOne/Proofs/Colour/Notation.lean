import SquareOne.Colour.Hex
import SquareOne.Proofs.Text.Trim

/-! The notation of colours, a number sign and six hexadecimal digits, and what is taken for it. The
check reads the digits in pairs, and as a pair it takes any numeral of two characters. It also takes
blanks around the whole, and does without the number sign. A text that makes no use of this is taken
for a colour only in the right notation.
-/

namespace SquareOne.Colour

/-- A number sign and six hexadecimal digits of either case. -/
def IsRgb (colour : Text) : Prop :=
  ∃ digits : Text, colour = '#' :: digits ∧ digits.length = 6 ∧
    ∀ digit ∈ digits, digit ∈ "0123456789abcdefABCDEF".toList

theorem isRgb_of_all {digits : Text} (count : digits.length = 6)
    (hex : digits.all Text.isHexDigit = true) : IsRgb ('#' :: digits) :=
  ⟨digits, rfl, count, fun digit member =>
    Text.isHexDigit_iff.mp (List.all_eq_true.mp hex digit member)⟩

/-- Numerals to the base sixteen: blanks, at most one sign, digits and blanks again. -/
inductive IsNumeral : Text → Prop
  | spelled (front sign digits back : Text)
      (blankFront : ∀ char ∈ front, isPairBlank char = true)
      (oneSign : sign.length ≤ 1) (signs : ∀ char ∈ sign, isSign char = true)
      (someDigit : digits ≠ []) (pairDigits : ∀ char ∈ digits, isPairDigit char = true)
      (blankBack : ∀ char ∈ back, isPairBlank char = true) :
      IsNumeral (front ++ sign ++ digits ++ back)

/-- Between blanks three numerals of two characters each, with a number sign before them or without.
-/
def IsTaken (colour : Text) : Prop :=
  ∃ mark red green blue : Text, colour.trim = mark ++ (red ++ green ++ blue) ∧
    (mark = [] ∨ mark = ['#']) ∧
    ∀ pair ∈ [red, green, blue], pair.length = 2 ∧ IsNumeral pair

theorem IsNumeral.mem {text : Text} (numeral : IsNumeral text) :
    ∀ char ∈ text, isPairBlank char = true ∨ isSign char = true ∨ isPairDigit char = true := by
  cases numeral with
  | spelled front sign digits back blankFront _ signs _ pairDigits blankBack =>
      intro char member
      simp only [List.mem_append] at member
      rcases member with ((inFront | inSign) | inDigits) | inBack
      · exact .inl (blankFront char inFront)
      · exact .inr (.inl (signs char inSign))
      · exact .inr (.inr (pairDigits char inDigits))
      · exact .inl (blankBack char inBack)

/-- Two characters that name a number are a numeral, and no others are. -/
theorem isPair_iff {first second : Char} :
    isPair first second = true ↔ IsNumeral [first, second] := by
  constructor
  · intro pair
    simp only [isPair, Bool.or_eq_true, Bool.and_eq_true] at pair
    rcases pair with ⟨digit, (lead | blank) | sign⟩ | ⟨digit, blank⟩
    · exact .spelled [] [] [first, second] [] (by simp) (by simp) (by simp) (by simp)
        (by simp [lead, digit]) (by simp)
    · exact .spelled [first] [] [second] [] (by simp [blank]) (by simp) (by simp) (by simp)
        (by simp [digit]) (by simp)
    · exact .spelled [] [first] [second] [] (by simp) (by simp) (by simp [sign]) (by simp)
        (by simp [digit]) (by simp)
    · exact .spelled [] [] [first] [second] (by simp) (by simp) (by simp) (by simp)
        (by simp [digit]) (by simp [blank])
  · intro numeral
    generalize whole : [first, second] = text at numeral
    cases numeral with
    | spelled front sign digits back blankFront oneSign signs someDigit pairDigits blankBack =>
        obtain ⟨digit, others, rfl⟩ := List.exists_cons_of_ne_nil someDigit
        have isDigit : isPairDigit digit = true := pairDigits digit List.mem_cons_self
        simp only [List.append_assoc, List.cons_append] at whole
        rw [isPair]
        -- One place is left beside the first digit, and it falls to one of the four parts.
        rcases front with - | ⟨blank, front⟩
        · rcases sign with - | ⟨mark, sign⟩
          · rcases others with - | ⟨next, others⟩
            · obtain ⟨rfl, rfl⟩ : first = digit ∧ [second] = back := List.cons.inj whole
              simp [isDigit, blankBack second List.mem_cons_self]
            · obtain ⟨rfl, rest⟩ : first = digit ∧ [second] = next :: (others ++ back) :=
                List.cons.inj whole
              obtain ⟨rfl, -⟩ := List.cons.inj rest
              simp [isDigit, pairDigits second (by simp)]
          · obtain rfl : sign = [] := List.eq_nil_of_length_eq_zero (Nat.le_zero.mp
              (Nat.le_of_succ_le_succ oneSign))
            obtain ⟨rfl, rest⟩ : first = mark ∧ [second] = digit :: (others ++ back) :=
              List.cons.inj whole
            obtain ⟨rfl, -⟩ := List.cons.inj rest
            simp [isDigit, signs first List.mem_cons_self]
        · obtain ⟨rfl, rest⟩ : first = blank ∧
              [second] = front ++ (sign ++ digit :: (others ++ back)) := List.cons.inj whole
          obtain rfl : second = digit := by
            have member : digit ∈ [second] := by simp [rest]
            exact (List.mem_singleton.mp member).symm
          simp [isDigit, blankFront first List.mem_cons_self]

theorem not_mark_of_isPair {first second : Char} (pair : isPair first second = true) :
    first ≠ '#' := by
  rintro rfl
  have plain : (isPairDigit '#' || isPairBlank '#' || isSign '#') = false := by decide
  simp only [Bool.or_eq_false_iff] at plain
  simp [isPair, plain] at pair

theorem exists_mark (colour : Text) :
    ∃ mark : Text, (mark = [] ∨ mark = ['#']) ∧ colour.trim = mark ++ bare colour := by
  unfold bare
  split
  · rename_i digits whole
    exact ⟨['#'], .inr rfl, whole⟩
  · exact ⟨[], .inl rfl, rfl⟩

/-- The check passes what is taken for a colour. -/
theorem isHex_iff {colour : Text} : isHex colour = true ↔ IsTaken colour := by
  constructor
  · intro hex
    obtain ⟨mark, oneMark, whole⟩ := exists_mark colour
    unfold isHex at hex
    split at hex
    · rename_i red red' green green' blue blue' digits
      simp only [Bool.and_eq_true] at hex
      refine ⟨mark, [red, red'], [green, green'], [blue, blue'], ?_, oneMark, ?_⟩
      · rw [whole, digits]
        rfl
      · simp [isPair_iff.mp hex.1.1, isPair_iff.mp hex.1.2, isPair_iff.mp hex.2]
    · cases hex
  · rintro ⟨mark, red, green, blue, whole, oneMark, pairs⟩
    simp only [List.forall_mem_cons, List.length_eq_two] at pairs
    obtain ⟨⟨⟨red, red', rfl⟩, redPair⟩, ⟨⟨green, green', rfl⟩, greenPair⟩,
      ⟨⟨blue, blue', rfl⟩, bluePair⟩, -⟩ := pairs
    rw [← isPair_iff] at redPair greenPair bluePair
    have digits : bare colour = [red, red', green, green', blue, blue'] := by
      rw [bare, whole]
      rcases oneMark with rfl | rfl
      · have plain := not_mark_of_isPair redPair
        split
        · rename_i same
          exact absurd (List.cons.inj same).1 plain
        · rfl
      · rfl
    simp [isHex, digits, redPair, greenPair, bluePair]

theorem check_eq_ok_iff {colour : Text} : check colour = .ok () ↔ IsTaken colour := by
  rw [← isHex_iff, check]
  split <;> simp [*]

theorem check_eq_error {colour : Text} {fault : Fault} (refused : check colour = .error fault) :
    ¬IsTaken colour ∧ fault = .colour colour := by
  rw [check] at refused
  split at refused
  · cases refused
  · rename_i notHex
    cases refused
    exact ⟨fun taken => notHex (isHex_iff.mpr taken), rfl⟩

/-- Texts that make no use of what the check takes beyond the notation. They hold no blank, no sign
and no digit of another script, and are not six digits without a number sign. -/
structure IsTidy (colour : Text) : Prop where
  noBlank : ∀ char ∈ colour, Text.isBlank char = false
  noSign : ∀ char ∈ colour, isSign char = false
  ascii : ∀ char ∈ colour, isPairDigit char = true → char ∈ Text.hexAlphabet
  marked : colour.length = 6 → ∃ char ∈ colour, char ∉ Text.hexAlphabet

theorem isNumeral_of_digits {first second : Char} (lead : first ∈ Text.hexAlphabet)
    (last : second ∈ Text.hexAlphabet) : IsNumeral [first, second] := by
  have digit : ∀ char ∈ Text.hexAlphabet, isPairDigit char = true := fun char member => by
    rw [isPairDigit, Text.isHexDigit_iff.mpr member, Bool.true_or]
  rw [← isPair_iff, isPair, digit first lead, digit second last]
  rfl

theorem IsRgb.isTidy {colour : Text} (rgb : IsRgb colour) : IsTidy colour := by
  obtain ⟨digits, rfl, count, hex⟩ := rgb
  have plain : ∀ char ∈ '#' :: Text.hexAlphabet, Text.isBlank char = false ∧ isSign char = false ∧
      (isPairDigit char = true → char ∈ Text.hexAlphabet) :=
    Text.forall_mem_of_all (by decide)
  have known : ∀ char ∈ '#' :: digits, char ∈ '#' :: Text.hexAlphabet := fun char member =>
    (List.mem_cons.mp member).elim (fun same => same ▸ List.mem_cons_self)
      fun inDigits => List.mem_cons_of_mem _ (hex char inDigits)
  refine ⟨fun char member => (plain char (known char member)).1,
    fun char member => (plain char (known char member)).2.1,
    fun char member => (plain char (known char member)).2.2, fun six => ?_⟩
  exact absurd six (by rw [List.length_cons, count]; decide)

theorem IsRgb.isTaken {colour : Text} (rgb : IsRgb colour) : IsTaken colour := by
  have solid := Text.trim_of_solid rgb.isTidy.noBlank
  obtain ⟨digits, rfl, count, hex⟩ := rgb
  match digits, count, hex with
  | [red, red', green, green', blue, blue'], _, hex =>
      simp only [List.forall_mem_cons] at hex
      obtain ⟨inRed, inRed', inGreen, inGreen', inBlue, inBlue', -⟩ := hex
      refine ⟨['#'], [red, red'], [green, green'], [blue, blue'], solid, .inr rfl, ?_⟩
      simp [isNumeral_of_digits inRed inRed', isNumeral_of_digits inGreen inGreen',
        isNumeral_of_digits inBlue inBlue']

theorem isRgb_of_isTidy {colour : Text} (taken : IsTaken colour) (tidy : IsTidy colour) :
    IsRgb colour := by
  obtain ⟨mark, red, green, blue, whole, oneMark, pairs⟩ := taken
  rw [Text.trim_of_solid tidy.noBlank] at whole
  have inColour : ∀ pair ∈ [red, green, blue], ∀ char ∈ pair, char ∈ colour := by
    rw [whole]
    simp +contextual
  have hex : ∀ pair ∈ [red, green, blue], ∀ char ∈ pair, char ∈ Text.hexAlphabet := by
    intro pair pairMember char charMember
    have member := inColour pair pairMember char charMember
    rcases (pairs pair pairMember).2.mem char charMember with blank | sign | digit
    · simp [isPairBlank, tidy.noBlank char member] at blank
    · simp [tidy.noSign char member] at sign
    · exact tidy.ascii char member digit
  have digits : ∀ char ∈ red ++ green ++ blue, char ∈ Text.hexAlphabet := by
    simp only [List.forall_mem_cons] at hex
    exact List.forall_mem_append.mpr ⟨List.forall_mem_append.mpr ⟨hex.1, hex.2.1⟩, hex.2.2.1⟩
  have count : (red ++ green ++ blue).length = 6 := by
    simp only [List.forall_mem_cons] at pairs
    rw [List.length_append, List.length_append, pairs.1.1, pairs.2.1.1, pairs.2.2.1.1]
  rcases oneMark with rfl | rfl
  · rw [List.nil_append] at whole
    obtain ⟨char, member, other⟩ := tidy.marked (whole ▸ count)
    exact absurd (digits char (whole ▸ member)) other
  · exact ⟨_, whole, count, digits⟩

/-- The notation is what is taken for a colour without any of the liberties that the check allows. -/
theorem isRgb_iff {colour : Text} : IsRgb colour ↔ IsTaken colour ∧ IsTidy colour :=
  ⟨fun rgb => ⟨rgb.isTaken, rgb.isTidy⟩, fun ⟨taken, tidy⟩ => isRgb_of_isTidy taken tidy⟩

end SquareOne.Colour
