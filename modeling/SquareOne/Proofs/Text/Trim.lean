import Mathlib.Data.List.DropRight
import SquareOne.Proofs.Text.Words
import SquareOne.Text.Blank

/-! Trimming: a text is its trimmed form between blanks, and trimming it trims its first and its
last fragment between slashes.
-/

namespace SquareOne.Text

variable {text gaps : Text}

theorem dropWhile_of_head? {isGap : Char → Bool} (solid : text.head?.any isGap = false) :
    text.dropWhile isGap = text := by
  cases text with
  | nil => rfl
  | cons char rest => exact List.dropWhile_cons_of_neg (by simpa using solid)

theorem trim_of_edges (starts : text.head?.any isBlank = false)
    (ends : text.getLast?.any isBlank = false) : trim text = text := by
  rw [← List.head?_reverse] at ends
  rw [trim, trimBy, dropWhile_of_head? starts, dropWhile_of_head? ends, List.reverse_reverse]

theorem head?_of_solid (solid : ∀ char ∈ text, isBlank char = false) :
    text.head?.any isBlank = false := by
  cases starts : text.head? with
  | none => rfl
  | some char => exact solid char (List.mem_of_head? starts)

theorem getLast?_of_solid (solid : ∀ char ∈ text, isBlank char = false) :
    text.getLast?.any isBlank = false := by
  cases ends : text.getLast? with
  | none => rfl
  | some char => exact solid char (List.mem_of_getLast? ends)

theorem trim_of_solid {text : Text} (solid : ∀ char ∈ text, isBlank char = false) :
    trim text = text :=
  trim_of_edges (head?_of_solid solid) (getLast?_of_solid solid)

theorem head?_dropWhile (isGap : Char → Bool) (text : Text) :
    (text.dropWhile isGap).head?.any isGap = false := by
  have first := List.head?_dropWhile_not isGap text
  cases starts : (text.dropWhile isGap).head? with
  | none => rfl
  | some char => simpa [starts] using first

theorem head?_trim (text : Text) : (trim text).head?.any isBlank = false := by
  obtain ⟨back, whole⟩ := List.rdropWhile_prefix isBlank (text.dropWhile isBlank)
  have solid := head?_dropWhile isBlank text
  cases trimmed : trim text with
  | nil => rfl
  | cons char rest =>
      have starts : (text.dropWhile isBlank).rdropWhile isBlank = char :: rest := trimmed
      rw [← whole, starts] at solid
      exact solid

theorem getLast?_trim (text : Text) : (trim text).getLast?.any isBlank = false := by
  rw [trim, trimBy, List.getLast?_reverse]
  exact head?_dropWhile isBlank _

@[simp] theorem trim_trim (text : Text) : trim (trim text) = trim text :=
  trim_of_edges (head?_trim text) (getLast?_trim text)

theorem trim_cons_blank {char : Char} (blank : isBlank char = true) (text : Text) :
    trim (char :: text) = trim text := by
  rw [trim, trimBy, List.dropWhile_cons_of_pos blank]
  rfl

theorem trim_append_blanks (text : Text) (blank : ∀ char ∈ gaps, isBlank char = true) :
    trim (text ++ gaps) = trim text := by
  have dropped : gaps.dropWhile isBlank = [] := List.dropWhile_eq_nil_iff.mpr blank
  have reversed : ∀ rest : Text,
      (gaps.reverse ++ rest).dropWhile isBlank = rest.dropWhile isBlank :=
    fun rest => List.dropWhile_append_of_pos fun char member =>
      blank char (List.mem_reverse.mp member)
  rw [trim, trimBy, List.dropWhile_append]
  split
  · rename_i allBlank
    rw [dropped, trim, trimBy, List.isEmpty_iff.mp allBlank]
  · rw [List.reverse_append, reversed]
    rfl

theorem exists_trim (text : Text) :
    ∃ front back : Text, text = front ++ (trim text ++ back) ∧
      (∀ char ∈ front, isBlank char = true) ∧ ∀ char ∈ back, isBlank char = true := by
  have front := @List.takeWhile_append_dropWhile _ isBlank text
  have back := @List.takeWhile_append_dropWhile _ isBlank (text.dropWhile isBlank).reverse
  refine ⟨text.takeWhile isBlank, ((text.dropWhile isBlank).reverse.takeWhile isBlank).reverse,
    ?_, fun char member => ?_, fun char member => ?_⟩
  · have unreversed := congrArg List.reverse back
    rw [List.reverse_append, List.reverse_reverse] at unreversed
    rw [trim, trimBy, unreversed, front]
  · exact List.mem_takeWhile_imp member
  · exact List.mem_takeWhile_imp (List.mem_reverse.mp member)

theorem words_trim (text : Text) : words (trim text) = words text := by
  obtain ⟨front, back, whole, frontBlank, backBlank⟩ := exists_trim text
  have split := congrArg (wordsBy isBlank) whole
  rw [wordsBy_gaps_append frontBlank, wordsBy_append_gaps backBlank] at split
  exact split.symm

theorem mem_of_mem_trim {text : Text} {char : Char} (member : char ∈ trim text) : char ∈ text := by
  obtain ⟨front, back, whole, -, -⟩ := exists_trim text
  rw [whole]
  exact List.mem_append_right front (List.mem_append_left back member)

theorem exists_trim_of_head {text : Text} (solid : text.head?.any isBlank = false) :
    ∃ back : Text, text = trim text ++ back ∧ ∀ char ∈ back, isBlank char = true := by
  obtain ⟨front, back, whole, frontBlank, backBlank⟩ := exists_trim text
  cases front with
  | nil => exact ⟨back, whole, backBlank⟩
  | cons char others =>
      have blank := frontBlank char List.mem_cons_self
      rw [whole] at solid
      exact absurd (blank.symm.trans solid) (by decide)

theorem exists_trim_of_last {text : Text} (solid : text.getLast?.any isBlank = false) :
    ∃ front : Text, text = front ++ trim text ∧ ∀ char ∈ front, isBlank char = true := by
  obtain ⟨front, back, whole, frontBlank, backBlank⟩ := exists_trim text
  rcases List.eq_nil_or_concat back with rfl | ⟨others, char, rfl⟩
  · rw [List.append_nil] at whole
    exact ⟨front, whole, frontBlank⟩
  · have blank := backBlank char (by simp)
    rw [whole, List.concat_eq_append, ← List.append_assoc, ← List.append_assoc,
      List.getLast?_concat] at solid
    exact absurd (blank.symm.trans solid) (by decide)

theorem blank_of_trim_eq_nil {text : Text} (empty : trim text = []) :
    ∀ char ∈ text, isBlank char = true := by
  obtain ⟨front, back, whole, frontBlank, backBlank⟩ := exists_trim text
  intro char member
  rw [whole, empty, List.nil_append, List.mem_append] at member
  exact member.elim (frontBlank char) (backBlank char)

theorem map_trim_splitOn_cons {char : Char} (blank : isBlank char = true) (text : Text) :
    ((char :: text).splitOn '/').map trim = (text.splitOn '/').map trim := by
  have other : (char == '/') = false := by
    apply beq_eq_false_iff_ne.mpr
    rintro rfl
    exact absurd blank (by decide)
  obtain ⟨head, tail, cut⟩ := List.exists_cons_of_ne_nil (List.splitOn_ne_nil '/' text)
  rw [List.splitOn_cons_eq_if_modifyHead, other, if_neg Bool.false_ne_true, cut]
  simp [trim_cons_blank blank]

theorem map_trim_splitOn_blanks (text : Text) (blank : ∀ char ∈ gaps, isBlank char = true) :
    ((gaps ++ text).splitOn '/').map trim = (text.splitOn '/').map trim := by
  induction gaps with
  | nil => rfl
  | cons char rest ih =>
      rw [List.cons_append, map_trim_splitOn_cons (blank char (by simp)),
        ih fun other member => blank other (List.mem_cons_of_mem _ member)]

theorem map_trim_splitOn_append (text : Text) (blank : ∀ char ∈ gaps, isBlank char = true) :
    ((text ++ gaps).splitOn '/').map trim = (text.splitOn '/').map trim := by
  obtain ⟨init, last, cut⟩ := (List.eq_nil_or_concat (text.splitOn '/')).resolve_left
    (List.splitOn_ne_nil '/' text)
  rw [List.concat_eq_append] at cut
  have joined := joinWith_splitOn '/' text
  have noSlash : '/' ∉ gaps := fun member => absurd (blank _ member) (by decide)
  have clean : ∀ piece ∈ init ++ [last ++ gaps], '/' ∉ piece := by
    have cleanText : ∀ piece ∈ init ++ [last], '/' ∉ piece := fun piece member =>
      not_mem_of_mem_splitOn (cut ▸ member)
    intro piece member
    rcases List.mem_append.mp member with inInit | same
    · exact cleanText piece (List.mem_append_left _ inInit)
    · rw [List.mem_singleton.mp same, List.mem_append, not_or]
      exact ⟨cleanText last (by simp), noSlash⟩
  have extended : text ++ gaps = joinWith '/' (init ++ [last ++ gaps]) := by
    rw [← joined, cut]
    cases init with
    | nil => simp
    | cons first rest =>
        rw [joinWith_append (by simp) (by simp), joinWith_append (by simp) (by simp)]
        simp
  rw [extended, splitOn_joinWith (by simp) clean, cut]
  simp [trim_append_blanks last blank]

/-- Trimming a text trims only its first and its last fragment. -/
theorem map_trim_splitOn_trim (text : Text) :
    ((trim text).splitOn '/').map trim = (text.splitOn '/').map trim := by
  obtain ⟨front, back, whole, frontBlank, backBlank⟩ := exists_trim text
  have parts := (map_trim_splitOn_blanks (trim text ++ back) frontBlank).trans
    (map_trim_splitOn_append (trim text) backBlank)
  rw [← whole] at parts
  exact parts.symm

end SquareOne.Text
