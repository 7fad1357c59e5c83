import SquareOne.Proofs.Text.Trim
import SquareOne.Scramble.Moves

/-! Reading moves piece by piece: a slash is a swap between what is read before it and behind it,
and a blank only parts the two.
-/

namespace SquareOne.Move

variable {word : Text}

theorem wordsOf_append_slash (first second : Text) :
    wordsOf (first ++ '/' :: second) = wordsOf first ++ ['/'] :: wordsOf second := by
  have slash : Text.words ['/'] = [['/']] :=
    Text.wordsBy_of_solid (List.cons_ne_nil '/' []) (List.forall_mem_singleton.mpr (by decide))
  have spaced : (first ++ '/' :: second).replaceChar '/' [' ', '/', ' '] =
      first.replaceChar '/' [' ', '/', ' '] ++
        ' ' :: (['/'] ++ ' ' :: second.replaceChar '/' [' ', '/', ' ']) := by
    rw [Text.replaceChar_append, Text.replaceChar_cons_self]
    rfl
  rw [wordsOf, spaced, Text.words, Text.wordsBy_append_gap (by decide),
    Text.wordsBy_append_gap (by decide)]
  rw [Text.words] at slash
  rw [slash]
  rfl

theorem wordsOf_append_blank {gap : Char} (blank : Text.isBlank gap = true) (first second : Text) :
    wordsOf (first ++ gap :: second) = wordsOf first ++ wordsOf second := by
  have other : gap ≠ '/' := by
    rintro rfl
    exact absurd blank (by decide)
  have kept : Text.replaceChar (gap :: second) '/' [' ', '/', ' '] =
      gap :: second.replaceChar '/' [' ', '/', ' '] := by
    simp [Text.replaceChar, other]
  rw [wordsOf, Text.replaceChar_append, kept, Text.words, Text.wordsBy_append_gap blank]
  rfl

theorem wordsOf_of_solid (nonempty : word ≠ []) (noSlash : '/' ∉ word)
    (solid : ∀ char ∈ word, Text.isBlank char = false) : wordsOf word = [word] := by
  rw [wordsOf, Text.replaceChar_of_not_mem noSlash]
  exact Text.wordsBy_of_solid nonempty solid

theorem readAll_append_slash (first second : Text) :
    readAll (first ++ '/' :: second) = readAll first ++ swap :: readAll second := by
  rw [readAll, wordsOf_append_slash, List.filterMap_append, List.filterMap_cons]
  rfl

theorem readAll_append_blank {gap : Char} (blank : Text.isBlank gap = true)
    (first second : Text) : readAll (first ++ gap :: second) = readAll first ++ readAll second := by
  rw [readAll, wordsOf_append_blank blank, List.filterMap_append]
  rfl

theorem readAll_cons_blank {gap : Char} (blank : Text.isBlank gap = true) (text : Text) :
    readAll (gap :: text) = readAll text :=
  readAll_append_blank blank [] text

theorem readAll_append_of_head {rest : Text} (parted : rest.head?.all Text.isBlank = true)
    (first : Text) : readAll (first ++ rest) = readAll first ++ readAll rest := by
  cases rest with
  | nil => rw [List.append_nil, readAll_nil, List.append_nil]
  | cons gap rest =>
      have blank : Text.isBlank gap = true := parted
      rw [readAll_append_blank blank, readAll_cons_blank blank]

theorem readAll_gaps_append {gaps : Text} (blank : ∀ char ∈ gaps, Text.isBlank char = true)
    (text : Text) : readAll (gaps ++ text) = readAll text := by
  induction gaps with
  | nil => rfl
  | cons gap gaps ih =>
      rw [List.cons_append, readAll_cons_blank (blank gap List.mem_cons_self),
        ih fun other member => blank other (List.mem_cons_of_mem gap member)]

theorem readAll_append_gaps {gaps : Text} (blank : ∀ char ∈ gaps, Text.isBlank char = true)
    (text : Text) : readAll (text ++ gaps) = readAll text := by
  have parted : gaps.head?.all Text.isBlank = true := by
    cases gaps with
    | nil => rfl
    | cons gap gaps => exact blank gap List.mem_cons_self
  have nothing := readAll_gaps_append blank []
  rw [List.append_nil, readAll_nil] at nothing
  rw [readAll_append_of_head parted, nothing, List.append_nil]

theorem readAll_trim (text : Text) : readAll (Text.trim text) = readAll text := by
  obtain ⟨front, back, whole, frontBlank, backBlank⟩ := Text.exists_trim text
  have split := congrArg readAll whole
  rw [readAll_gaps_append frontBlank, readAll_append_gaps backBlank] at split
  exact split.symm

theorem swap_not_mem_readAll {text : Text} (noSlash : '/' ∉ text) : swap ∉ readAll text := by
  intro member
  obtain ⟨word, wordMember, read⟩ := List.mem_filterMap.mp member
  rw [wordsOf, Text.replaceChar_of_not_mem noSlash] at wordMember
  rw [read?] at read
  split at read
  · rename_i isSlash
    have inText := (Text.mem_of_mem_wordsBy wordMember).2 '/' (by simp [isSlash])
    exact noSlash inText.1
  · simp at read

theorem readAll_of_solid (nonempty : word ≠ []) (noSlash : '/' ∉ word)
    (solid : ∀ char ∈ word, Text.isBlank char = false) :
    readAll word = ((Turn.read? word).map turn).toList := by
  have notSlash : word ≠ ['/'] := fun same => noSlash (by simp [same])
  rw [readAll, wordsOf_of_solid nonempty noSlash solid, List.filterMap_cons, read?, if_neg notSlash]
  cases Turn.read? word <;> rfl

theorem readAll_joinWith_slash (pieces : List Text) :
    readAll (Text.joinWith '/' pieces) = [swap].intercalate (pieces.map readAll) := by
  induction pieces with
  | nil => rfl
  | cons piece rest ih =>
      cases rest with
      | nil => simp
      | cons next rest =>
          rw [Text.joinWith_cons_cons, readAll_append_slash, ih]
          simp [List.intercalate_cons_cons]

theorem readAll_joinWith_space (pieces : List Text) :
    readAll (Text.joinWith ' ' pieces) = pieces.flatMap readAll := by
  induction pieces with
  | nil => rfl
  | cons piece rest ih =>
      cases rest with
      | nil => simp
      | cons next rest =>
          rw [Text.joinWith_cons_cons, readAll_append_blank (by decide), ih]
          simp

end SquareOne.Move
