import SquareOne.Text.Basic

/-! Cutting and joining: pieces without the separator are what their join is cut into, and putting
another character in the place of the separator joins them with that one.
-/

namespace SquareOne.Text

variable {separator : Char} {pieces : List Text}

theorem flatMap_eq_self {items : List Text} {cut : Text → List Text}
    (whole : ∀ item ∈ items, cut item = [item]) : items.flatMap cut = items := by
  rw [List.flatMap_def, List.map_congr_left whole, ← List.flatMap_def, List.flatMap_singleton']

@[simp] theorem joinWith_nil (separator : Char) : joinWith separator [] = [] := rfl

theorem joinWith_cons_cons (separator : Char) (piece next : Text) (rest : List Text) :
    joinWith separator (piece :: next :: rest) =
      piece ++ separator :: joinWith separator (next :: rest) := by
  simp [joinWith, List.intercalate_cons_cons]

theorem joinWith_cons (separator : Char) (piece : Text) (rest : List Text) :
    joinWith separator (piece :: rest) = piece ++ rest.flatMap (separator :: ·) := by
  induction rest generalizing piece with
  | nil => simp
  | cons next rest ih => rw [joinWith_cons_cons, ih, List.flatMap_cons, List.cons_append]

theorem joinWith_append {first second : List Text}
    (firstSome : first ≠ []) (secondSome : second ≠ []) :
    joinWith separator (first ++ second) =
      joinWith separator first ++ separator :: joinWith separator second := by
  obtain ⟨head, tail, rfl⟩ := List.exists_cons_of_ne_nil firstSome
  obtain ⟨next, rest, rfl⟩ := List.exists_cons_of_ne_nil secondSome
  rw [List.cons_append, joinWith_cons, joinWith_cons, joinWith_cons]
  simp

theorem joinWith_cons_char (separator char : Char) (piece : Text) (rest : List Text) :
    joinWith separator ((char :: piece) :: rest) = char :: joinWith separator (piece :: rest) := by
  rw [joinWith_cons, joinWith_cons, List.cons_append]

theorem joinWith_nil_cons (separator : Char) {rest : List Text} (nonempty : rest ≠ []) :
    joinWith separator ([] :: rest) = separator :: joinWith separator rest := by
  obtain ⟨next, others, rfl⟩ := List.exists_cons_of_ne_nil nonempty
  rw [joinWith_cons_cons, List.nil_append]

theorem getLast?_joinWith_concat (separator : Char) (front : List Text) {piece : Text}
    (nonempty : piece ≠ []) :
    (joinWith separator (front ++ [piece])).getLast? = piece.getLast? := by
  cases front with
  | nil => simp
  | cons first rest =>
      rw [joinWith_append (by simp) (by simp), joinWith_singleton, List.getLast?_append,
        List.getLast?_cons_of_ne_nil nonempty, List.getLast?_eq_some_getLast nonempty]
      rfl

theorem mem_joinWith {char : Char} (member : char ∈ joinWith separator pieces) :
    char = separator ∨ ∃ piece ∈ pieces, char ∈ piece := by
  cases pieces with
  | nil => simp at member
  | cons first rest =>
      rw [joinWith_cons, List.mem_append, List.mem_flatMap] at member
      rcases member with inFirst | ⟨piece, pieceMember, inPiece⟩
      · exact .inr ⟨first, by simp, inFirst⟩
      · rcases List.mem_cons.mp inPiece with same | inPiece
        · exact .inl same
        · exact .inr ⟨piece, by simp [pieceMember], inPiece⟩

theorem not_mem_of_mem_splitOn {text piece : Text} (member : piece ∈ text.splitOn separator) :
    separator ∉ piece := by
  induction text generalizing piece with
  | nil => simp at member; simp [member]
  | cons char rest ih =>
      rw [List.splitOn_cons_eq_if_modifyHead] at member
      split at member
      · rcases List.mem_cons.mp member with rfl | member
        · simp
        · exact ih member
      · rename_i other
        obtain ⟨head, tail, cut⟩ := List.exists_cons_of_ne_nil (List.splitOn_ne_nil separator rest)
        rw [cut, List.modifyHead_cons] at member
        rcases List.mem_cons.mp member with rfl | member
        · have apart : ¬separator = char := fun same => other (by simp [same])
          have clean : separator ∉ head := ih (by simp [cut])
          simp [apart, clean]
        · exact ih (by simp [cut, member])

theorem one_lt_length_splitOn {text : Text} (member : separator ∈ text) :
    1 < (text.splitOn separator).length := by
  have joined := joinWith_splitOn separator text
  match cut : text.splitOn separator with
  | [] => exact absurd cut (List.splitOn_ne_nil separator text)
  | [whole] =>
      rw [cut, joinWith_singleton] at joined
      exact absurd (joined ▸ member) (not_mem_of_mem_splitOn (cut ▸ List.mem_singleton_self whole))
  | _ :: _ :: _ => simp

theorem splitOn_joinWith (nonempty : pieces ≠ []) (clean : ∀ piece ∈ pieces, separator ∉ piece) :
    (joinWith separator pieces).splitOn separator = pieces :=
  List.splitOn_intercalate separator clean nonempty

theorem replaceChar_of_not_mem {text : Text} {found : Char} {replacement : Text}
    (absent : found ∉ text) : text.replaceChar found replacement = text := by
  induction text with
  | nil => rfl
  | cons char rest ih =>
      simp only [List.mem_cons, not_or] at absent
      have other : ¬char = found := fun same => absent.1 same.symm
      simpa [replaceChar, other] using ih absent.2

theorem replaceChar_append (first second : Text) (found : Char) (replacement : Text) :
    (first ++ second).replaceChar found replacement =
      first.replaceChar found replacement ++ second.replaceChar found replacement :=
  List.flatMap_append

theorem replaceChar_cons_self (found : Char) (rest replacement : Text) :
    replaceChar (found :: rest) found replacement =
      replacement ++ rest.replaceChar found replacement := by
  simp [replaceChar]

theorem replaceChar_flatMap {rest : List Text} {other : Char}
    (clean : ∀ piece ∈ rest, separator ∉ piece) :
    replaceChar (rest.flatMap (separator :: ·)) separator [other] = rest.flatMap (other :: ·) := by
  induction rest with
  | nil => rfl
  | cons piece rest ih =>
      rw [List.flatMap_cons, List.flatMap_cons, replaceChar_append, replaceChar_cons_self,
        replaceChar_of_not_mem (clean piece (by simp)),
        ih fun next member => clean next (List.mem_cons_of_mem _ member)]
      simp

theorem replaceChar_joinWith {other : Char} (clean : ∀ piece ∈ pieces, separator ∉ piece) :
    (joinWith separator pieces).replaceChar separator [other] = joinWith other pieces := by
  cases pieces with
  | nil => rfl
  | cons piece rest =>
      rw [joinWith_cons, joinWith_cons, replaceChar_append,
        replaceChar_of_not_mem (clean piece (by simp)),
        replaceChar_flatMap fun next member => clean next (List.mem_cons_of_mem _ member)]

end SquareOne.Text
