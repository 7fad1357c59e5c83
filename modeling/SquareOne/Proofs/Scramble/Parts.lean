import SquareOne.Proofs.Scramble.Layout
import SquareOne.Proofs.Text.Trim
import SquareOne.Scramble.Inverse

/-! The parts that a text is cut into, and what is left of them when their numerals are negated.

`IsCut` says which parts a text can be cut into. The text of such parts is cut into them again, and
negating the numerals of parts leads to such parts. A second scan thus cuts a text whose turns were
negated exactly where the first one did.
-/

namespace SquareOne

namespace Numeral

theorem mem_write {value : Int} {char : Char} (member : char ∈ write value) :
    char = '-' ∨ char.isDigit = true := by
  have digits : ∀ magnitude, char ∈ Nat.toDigits 10 magnitude → char.isDigit = true :=
    fun magnitude inDigits => Nat.isDigit_of_mem_toDigits (by decide) (by decide) inDigits
  cases value with
  | ofNat magnitude => exact .inr (digits magnitude member)
  | negSucc below =>
      rcases List.mem_cons.mp member with minus | inDigits
      · exact .inl minus
      · exact .inr (digits _ inDigits)

end Numeral

namespace Scramble

theorem wordChar_of_isDigit {char : Char} (digit : char.isDigit = true) :
    isSeparator char = false ∧ isParenthesis char = false := by
  have range := Char.isDigit_iff_toNat.mp digit
  have lower : 48 ≤ char.toNat := range.1
  have upper : char.toNat ≤ 57 := range.2
  have apart : ∀ other : Char, other.toNat < 48 ∨ 57 < other.toNat → (char == other) = false := by
    intro other outside
    apply beq_eq_false_iff_ne.mpr
    rintro rfl
    omega
  have solid : Text.isBlank char = false := by
    simp only [Text.isBlank, Bool.or_eq_false_iff, Bool.and_eq_false_iff, decide_eq_false_iff_not,
      beq_eq_false_iff_ne]
    omega
  constructor
  · rw [isSeparator, apart '/' (by decide), apart '\\' (by decide), solid]
    rfl
  · rw [isParenthesis, apart '(' (by decide), apart ')' (by decide)]
    rfl

end Scramble

namespace Part

variable {text : Text} {char : Char} {parts rest : List Part}

section Cutting

theorem isRunChar_iff :
    isRunChar char = true ↔
      Text.isBlank char = false ∧ isParenthesis char = false ∧ (char == '/') = false := by
  rw [isRunChar, Bool.not_eq_true', Bool.or_eq_false_iff, Bool.or_eq_false_iff, and_assoc]

theorem isRunChar_of_wordChar
    (wordChar : Scramble.isSeparator char = false ∧ isParenthesis char = false) :
    isRunChar char = true := by
  have solid := wordChar.1
  rw [Scramble.isSeparator, Bool.or_eq_false_iff, Bool.or_eq_false_iff] at solid
  exact isRunChar_iff.mpr ⟨solid.2, wordChar.2, solid.1.1⟩

theorem ofText_cons (char : Char) (text : Text) :
    ofText (char :: text) = push char (ofText text) := by
  rw [ofText, List.foldr_cons, ofText]

theorem push_mark (isMark : isRunChar char = false) (other : char ≠ '(') (parts : List Part) :
    push char parts = .mark char :: parts := by
  rw [push.eq_def, isMark, if_neg Bool.false_ne_true, if_neg other]

/-- A run goes on to the next character that belongs to none. -/
theorem ofText_run {word behind : Text} (nonempty : word ≠ [])
    (runChars : ∀ char ∈ word, isRunChar char = true)
    (whole : ∀ other after, ofText behind ≠ .run other :: after) :
    ofText (word ++ behind) = .run word :: ofText behind := by
  induction word with
  | nil => exact absurd rfl nonempty
  | cons char others ih =>
      have first := runChars char List.mem_cons_self
      cases others with
      | nil =>
          rw [List.singleton_append, ofText_cons, push.eq_def, if_pos first]
          cases parts : ofText behind with
          | nil => rfl
          | cons part after =>
              cases part with
              | run other => exact absurd parts (whole other after)
              | group => rfl
              | mark => rfl
      | cons next others =>
          have inner := ih (List.cons_ne_nil next others)
            fun other member => runChars other (List.mem_cons_of_mem char member)
          rw [List.cons_append, ofText_cons, inner, push.eq_def, if_pos first]

/-- A character that is no parenthesis lies inside a group that is still open. -/
theorem closeGroup?_push (inside : isParenthesis char = false) (parts : List Part) :
    closeGroup? (push char parts) =
      (closeGroup? parts).map fun (body, after) => (char :: body, after) := by
  rw [isParenthesis, Bool.or_eq_false_iff, beq_eq_false_iff_ne, beq_eq_false_iff_ne] at inside
  cases run : isRunChar char with
  | false => rw [push_mark run inside.1, closeGroup?, if_neg inside.2, if_neg inside.1]
  | true =>
      rw [push.eq_def, if_pos run]
      cases parts with
      | nil => rfl
      | cons part rest =>
          cases part with
          | run word => simp [closeGroup?, Function.comp_def]
          | group | mark => rfl

theorem closeGroup?_ofText {body behind : Text}
    (inside : ∀ char ∈ body, isParenthesis char = false) :
    closeGroup? (ofText (body ++ ')' :: behind)) = some (body, ofText behind) := by
  induction body with
  | nil => rw [List.nil_append, ofText_cons, push_mark (by decide) (by decide)]; rfl
  | cons char body ih =>
      rw [List.cons_append, ofText_cons, closeGroup?_push (inside char List.mem_cons_self),
        ih fun other member => inside other (List.mem_cons_of_mem char member)]
      rfl

theorem ofText_group {body behind : Text} (inside : ∀ char ∈ body, isParenthesis char = false) :
    ofText ('(' :: (body ++ ')' :: behind)) = .group body :: ofText behind := by
  rw [ofText_cons, push.eq_def, if_neg (by decide), if_pos rfl, closeGroup?_ofText inside]

end Cutting

/-- Parts that a text can be cut into: runs are as long as can be, and a parenthesis that opens no
group is closed by none of the parts behind it. -/
inductive IsCut : List Part → Prop
  | nil : IsCut []
  | group {body : Text} {rest : List Part} (inside : ∀ char ∈ body, isParenthesis char = false)
      (behind : IsCut rest) : IsCut (.group body :: rest)
  | run {word : Text} {rest : List Part} (nonempty : word ≠ [])
      (runChars : ∀ char ∈ word, isRunChar char = true)
      (whole : ∀ other after, rest ≠ .run other :: after) (behind : IsCut rest) :
      IsCut (.run word :: rest)
  | mark {char : Char} {rest : List Part} (isMark : isRunChar char = false)
      (unclosed : char = '(' → closeGroup? rest = none) (behind : IsCut rest) :
      IsCut (.mark char :: rest)

namespace IsCut

/-- The text of parts is cut into the same parts again. -/
theorem ofText_flatMap_text (cut : IsCut parts) : ofText (parts.flatMap Part.text) = parts := by
  induction cut with
  | nil => rfl
  | group inside _ ih =>
      rw [List.flatMap_cons, Part.text, List.cons_append, List.cons_append, List.append_assoc,
        List.singleton_append, ofText_group inside, ih]
  | run nonempty runChars whole _ ih =>
      rw [List.flatMap_cons, Part.text, ofText_run nonempty runChars (by rwa [ih]), ih]
  | @mark char rest isMark unclosed _ ih =>
      rw [List.flatMap_cons, Part.text, List.singleton_append, ofText_cons, ih]
      by_cases opening : char = '('
      · rw [push.eq_def, isMark, if_neg Bool.false_ne_true, if_pos opening, unclosed opening]
      · exact push_mark isMark opening rest

theorem of_closeGroup? (cut : IsCut parts) {body : Text} {after : List Part}
    (closed : closeGroup? parts = some (body, after)) :
    (∀ char ∈ body, isParenthesis char = false) ∧ IsCut after := by
  induction cut generalizing body with
  | nil => cases closed
  | group => cases closed
  | run nonempty runChars whole behind ih =>
      simp only [closeGroup?, Option.map_eq_some_iff, Prod.mk.injEq, Prod.exists] at closed
      obtain ⟨inner, tail, found, rfl, rfl⟩ := closed
      obtain ⟨inside, cutAfter⟩ := ih found
      refine ⟨fun char member => ?_, cutAfter⟩
      rcases List.mem_append.mp member with inWord | inInner
      · exact (isRunChar_iff.mp (runChars char inWord)).2.1
      · exact inside char inInner
  | @mark char rest isMark unclosed behind ih =>
      rw [closeGroup?] at closed
      split at closed
      · cases closed
        exact ⟨by simp, behind⟩
      · rename_i notClosing
        split at closed
        · cases closed
        · rename_i notOpening
          simp only [Option.map_eq_some_iff, Prod.mk.injEq, Prod.exists] at closed
          obtain ⟨inner, tail, found, rfl, rfl⟩ := closed
          obtain ⟨inside, cutAfter⟩ := ih found
          have other : isParenthesis char = false := by simp [isParenthesis, notClosing, notOpening]
          exact ⟨List.forall_mem_cons.mpr ⟨other, inside⟩, cutAfter⟩

theorem push (cut : IsCut parts) (char : Char) : IsCut (push char parts) := by
  cases run : isRunChar char with
  | true =>
      rw [Part.push.eq_def, if_pos run]
      cases cut with
      | nil => exact .run (by simp) (by simpa using run) (by simp) .nil
      | group inside behind =>
          exact .run (by simp) (by simpa using run) (by simp) (.group inside behind)
      | run nonempty runChars whole behind =>
          exact .run (by simp) (List.forall_mem_cons.mpr ⟨run, runChars⟩) whole behind
      | mark isMark unclosed behind =>
          exact .run (by simp) (by simpa using run) (by simp) (.mark isMark unclosed behind)
  | false =>
      by_cases opening : char = '('
      · rw [Part.push.eq_def, run, if_neg Bool.false_ne_true, if_pos opening]
        cases closed : closeGroup? parts with
        | none => exact .mark run (fun _ => closed) cut
        | some found =>
            obtain ⟨inside, behind⟩ := cut.of_closeGroup? closed
            exact .group inside behind
      · rw [push_mark run opening]
        exact .mark run (fun same => absurd same opening) cut

end IsCut

theorem isCut_ofText (text : Text) : IsCut (ofText text) := by
  induction text with
  | nil => exact .nil
  | cons char text ih => exact ih.push char

section Negating

theorem mem_negateNumeral (member : char ∈ negateNumeral text) :
    char ∈ text ∨ char = '-' ∨ char.isDigit = true := by
  rw [negateNumeral] at member
  split at member
  · exact .inr (Numeral.mem_write member)
  · exact .inl (Text.mem_of_mem_trim member)

theorem splitOn_negateList (text : Text) :
    (negateList text).splitOn ',' = (text.splitOn ',').map negateNumeral := by
  refine Text.splitOn_joinWith (by simp) fun piece member comma => ?_
  obtain ⟨part, partMember, rfl⟩ := List.mem_map.mp member
  rcases mem_negateNumeral comma with inPart | isMinus | digit
  · exact Text.not_mem_of_mem_splitOn partMember inPart
  · exact absurd isMinus (by decide)
  · exact absurd digit (by decide)

theorem mem_negateList (member : char ∈ negateList text) :
    char = ',' ∨ char ∈ text ∨ char = '-' ∨ char.isDigit = true := by
  refine (Text.mem_joinWith member).imp_right ?_
  rintro ⟨piece, pieceMember, inPiece⟩
  obtain ⟨part, partMember, rfl⟩ := List.mem_map.mp pieceMember
  exact (mem_negateNumeral inPiece).imp_left fun inPart =>
    (Text.mem_splitOnP partMember char inPart).1

theorem comma_mem_negateList (comma : ',' ∈ text) : ',' ∈ negateList text := by
  -- Without a comma there would be one numeral only, and so in the text itself.
  by_contra absent
  have several := Text.one_lt_length_splitOn comma
  have single := congrArg List.length (splitOn_negateList text)
  rw [List.splitOn_eq_singleton absent, List.length_map, List.length_singleton] at single
  omega

theorem negateNumeral_of_read? {value : Int} (read : Numeral.read? (Text.trim text) = some value) :
    negateNumeral text = Numeral.write (-value) := by
  rw [negateNumeral, read]

theorem negateNumeral_of_unread (unread : Numeral.read? (Text.trim text) = none) :
    negateNumeral text = Text.trim text := by
  rw [negateNumeral, unread]

theorem read?_trim_write (value : Int) :
    Numeral.read? (Text.trim (Numeral.write value)) = some value := by
  have solid : ∀ char ∈ Numeral.write value, Text.isBlank char = false := by
    intro char member
    rcases Numeral.mem_write member with rfl | digit
    · decide
    · exact Scramble.not_blank_of_solid (Scramble.wordChar_of_isDigit digit).1
  rw [Text.trim_of_solid solid, Numeral.read?_write]

theorem read?_negateNumeral (text : Text) :
    Numeral.read? (Text.trim (negateNumeral text)) =
      (Numeral.read? (Text.trim text)).map fun value => -value := by
  cases read : Numeral.read? (Text.trim text) with
  | some value =>
      rw [negateNumeral_of_read? read, read?_trim_write]
      rfl
  | none =>
      rw [negateNumeral_of_unread read, Text.trim_trim, read]
      rfl

/-- A numeral is written in one way only once it has been negated, and what is no numeral is only
trimmed. -/
theorem negateNumeral_settles (text : Text) :
    negateNumeral (negateNumeral (negateNumeral text)) = negateNumeral text := by
  cases read : Numeral.read? (Text.trim text) with
  | some value =>
      rw [negateNumeral_of_read? read, negateNumeral_of_read? (read?_trim_write _),
        negateNumeral_of_read? (read?_trim_write _), Int.neg_neg]
  | none =>
      have again : negateNumeral (Text.trim text) = Text.trim text := by
        rw [negateNumeral_of_unread (by rwa [Text.trim_trim]), Text.trim_trim]
      rw [negateNumeral_of_unread read, again, again]

theorem negateList_settles (text : Text) :
    negateList (negateList (negateList text)) = negateList text := by
  have thrice : ∀ text, negateList (negateList text) =
      Text.joinWith ',' (((text.splitOn ',').map negateNumeral).map negateNumeral) := by
    intro text
    rw [negateList, splitOn_negateList]
  rw [thrice, splitOn_negateList, List.map_map, List.map_map, negateList]
  exact congrArg _ (List.map_congr_left fun part _ => negateNumeral_settles part)

theorem negate_run_of_comma {word : Text} (comma : ',' ∈ word) :
    negate (.run word) = .run (negateList word) := by
  rw [negate, if_pos (by simpa using comma)]

theorem negate_run_of_no_comma {word : Text} (noComma : ',' ∉ word) :
    negate (.run word) = .run word := by
  rw [negate, if_neg (by simpa using noComma)]

theorem negate_settles (part : Part) : part.negate.negate.negate = part.negate := by
  cases part with
  | group body => exact congrArg group (negateList_settles body)
  | mark char => rfl
  | run word =>
      by_cases comma : ',' ∈ word
      · have once := comma_mem_negateList comma
        rw [negate_run_of_comma comma, negate_run_of_comma once,
          negate_run_of_comma (comma_mem_negateList once), negateList_settles]
      · simp only [negate_run_of_no_comma comma]

theorem isRunChar_of_mem_negateList {word : Text} (runChars : ∀ char ∈ word, isRunChar char = true) :
    ∀ char ∈ negateList word, isRunChar char = true := by
  intro char member
  rcases mem_negateList member with rfl | inWord | rfl | digit
  · decide
  · exact runChars char inWord
  · decide
  · exact isRunChar_of_wordChar (Scramble.wordChar_of_isDigit digit)

theorem not_parenthesis_of_mem_negateList {body : Text}
    (inside : ∀ char ∈ body, isParenthesis char = false) :
    ∀ char ∈ negateList body, isParenthesis char = false := by
  intro char member
  rcases mem_negateList member with rfl | inBody | rfl | digit
  · decide
  · exact inside char inBody
  · decide
  · exact (Scramble.wordChar_of_isDigit digit).2

theorem closeGroup?_map_negate (unclosed : closeGroup? parts = none) :
    closeGroup? (parts.map negate) = none := by
  induction parts with
  | nil => rfl
  | cons part rest ih =>
      cases part with
      | group => rfl
      | run word =>
          rw [closeGroup?, Option.map_eq_none_iff] at unclosed
          rw [List.map_cons, negate, closeGroup?, ih unclosed, Option.map_none]
      | mark char =>
          rw [closeGroup?] at unclosed
          rw [List.map_cons, negate, closeGroup?]
          split at unclosed
          · cases unclosed
          · rename_i notClosing
            rw [if_neg notClosing]
            split at unclosed
            · rename_i opening
              rw [if_pos opening]
            · rename_i notOpening
              rw [if_neg notOpening, ih (Option.map_eq_none_iff.mp unclosed), Option.map_none]

/-- Negating the numerals changes neither what is a group, a run or a mark, nor where they part. -/
theorem IsCut.map_negate (cut : IsCut parts) : IsCut (parts.map negate) := by
  induction cut with
  | nil => exact .nil
  | group inside _ ih => exact .group (not_parenthesis_of_mem_negateList inside) ih
  | @run word rest nonempty runChars whole _ ih =>
      have stillWhole : ∀ other after, rest.map negate ≠ .run other :: after := by
        intro other after same
        obtain ⟨part, behind, rfl, negated, -⟩ := List.map_eq_cons_iff.mp same
        cases part with
        | run word => exact whole word behind rfl
        | group | mark => cases negated
      rw [List.map_cons]
      by_cases comma : ',' ∈ word
      · rw [negate_run_of_comma comma]
        exact .run (List.ne_nil_of_mem (comma_mem_negateList comma))
          (isRunChar_of_mem_negateList runChars) stillWhole ih
      · rw [negate_run_of_no_comma comma]
        exact .run nonempty runChars stillWhole ih
  | mark isMark unclosed _ ih =>
      exact .mark isMark (fun opening => closeGroup?_map_negate (unclosed opening)) ih

end Negating

end Part

end SquareOne
