import SquareOne.Proofs.Scramble.Parts

/-! The inverse of any text, fragment by fragment. The first inversion writes every numeral in one
way and trims what has to be trimmed; from then on inverting goes back and forth.
-/

namespace SquareOne

namespace Part

variable {char : Char} {part : Part} {parts : List Part}

theorem mem_text_negate (member : char ∈ part.negate.text) :
    char = ',' ∨ char ∈ part.text ∨ char = '-' ∨ char.isDigit = true := by
  cases part with
  | mark => exact .inr (.inl member)
  | run word =>
      by_cases comma : ',' ∈ word
      · rw [negate_run_of_comma comma] at member
        exact mem_negateList member
      · rw [negate_run_of_no_comma comma] at member
        exact .inr (.inl member)
  | group body =>
      simp only [negate, text, List.cons_append, List.mem_cons, List.mem_append,
        List.not_mem_nil, or_false] at member ⊢
      rcases member with rfl | inBody | rfl
      · simp
      · rcases mem_negateList inBody with same | inText | numeral
        · exact .inl same
        · exact .inr (.inl (.inr (.inl inText)))
        · exact .inr (.inr numeral)
      · simp

/-- A part starts and ends with a blank just as it does with its numerals negated. -/
theorem IsCut.edges_negate (cut : IsCut parts) (member : part ∈ parts) :
    (part.text ≠ [] ∧ part.negate.text ≠ []) ∧
      part.negate.text.head?.any Text.isBlank = part.text.head?.any Text.isBlank ∧
      part.negate.text.getLast?.any Text.isBlank = part.text.getLast?.any Text.isBlank := by
  induction cut with
  | nil => cases member
  | group _ _ ih =>
      rcases List.mem_cons.mp member with rfl | member
      · refine ⟨⟨List.cons_ne_nil _ _, List.cons_ne_nil _ _⟩, rfl, ?_⟩
        rw [negate, text, text, List.getLast?_concat, List.getLast?_concat]
      · exact ih member
  | @run word rest nonempty runChars _ _ ih =>
      rcases List.mem_cons.mp member with rfl | member
      · by_cases comma : ',' ∈ word
        · have solid : ∀ {run : Text}, (∀ char ∈ run, isRunChar char = true) →
              ∀ char ∈ run, Text.isBlank char = false :=
            fun chars char inRun => (isRunChar_iff.mp (chars char inRun)).1
          have before := solid runChars
          have after := solid (isRunChar_of_mem_negateList runChars)
          rw [negate_run_of_comma comma]
          refine ⟨⟨nonempty, List.ne_nil_of_mem (comma_mem_negateList comma)⟩, ?_, ?_⟩
          · exact (Text.head?_of_solid after).trans (Text.head?_of_solid before).symm
          · exact (Text.getLast?_of_solid after).trans (Text.getLast?_of_solid before).symm
        · rw [negate_run_of_no_comma comma]
          exact ⟨⟨nonempty, nonempty⟩, rfl, rfl⟩
      · exact ih member
  | mark _ _ _ ih =>
      rcases List.mem_cons.mp member with rfl | member
      · exact ⟨⟨List.cons_ne_nil _ _, List.cons_ne_nil _ _⟩, rfl, rfl⟩
      · exact ih member

end Part

namespace Scramble

variable {fragment : Text}

theorem negateTurns_eq (fragment : Text) :
    negateTurns fragment = ((Part.ofText fragment).map Part.negate).flatMap Part.text := by
  rw [negateTurns, List.flatMap_map]

theorem ofText_negateTurns (fragment : Text) :
    Part.ofText (negateTurns fragment) = (Part.ofText fragment).map Part.negate := by
  rw [negateTurns_eq]
  exact (Part.isCut_ofText fragment).map_negate.ofText_flatMap_text

theorem negateTurns_settles (fragment : Text) :
    negateTurns (negateTurns (negateTurns fragment)) = negateTurns fragment := by
  rw [negateTurns_eq, ofText_negateTurns, ofText_negateTurns, negateTurns_eq, List.map_map,
    List.map_map]
  exact congrArg (List.flatMap Part.text)
    (List.map_congr_left fun part _ => Part.negate_settles part)

theorem no_slash_negateTurns (noSlash : '/' ∉ fragment) : '/' ∉ negateTurns fragment := by
  intro member
  obtain ⟨part, partMember, inPart⟩ := List.mem_flatMap.mp member
  rcases Part.mem_text_negate inPart with same | inText | same | digit
  · exact absurd same (by decide)
  · rw [← Part.ofText_text fragment] at noSlash
    exact noSlash (List.mem_flatMap.mpr ⟨part, partMember, inText⟩)
  · exact absurd same (by decide)
  · exact absurd digit (by decide)

theorem head?_negateTurns (fragment : Text) :
    (negateTurns fragment).head?.any Text.isBlank = fragment.head?.any Text.isBlank := by
  have cut := Part.isCut_ofText fragment
  have whole := Part.ofText_text fragment
  rw [negateTurns]
  cases parts : Part.ofText fragment with
  | nil => rw [← whole, parts]; rfl
  | cons part rest =>
      rw [parts] at cut whole
      obtain ⟨⟨someText, someNegated⟩, starts, -⟩ := cut.edges_negate List.mem_cons_self
      rw [← whole, List.flatMap_cons, List.flatMap_cons, List.head?_append_of_ne_nil _ someNegated,
        List.head?_append_of_ne_nil _ someText, starts]

theorem getLast?_negateTurns (fragment : Text) :
    (negateTurns fragment).getLast?.any Text.isBlank = fragment.getLast?.any Text.isBlank := by
  have cut := Part.isCut_ofText fragment
  have whole := Part.ofText_text fragment
  rw [negateTurns]
  rcases List.eq_nil_or_concat (Part.ofText fragment) with parts | ⟨init, part, parts⟩
  · rw [← whole, parts]
    rfl
  · rw [List.concat_eq_append] at parts
    rw [parts] at cut whole ⊢
    obtain ⟨⟨someText, someNegated⟩, -, ends⟩ :=
      cut.edges_negate (List.mem_append_right init (List.mem_singleton_self part))
    rw [← whole, List.flatMap_append, List.flatMap_append, List.flatMap_singleton,
      List.flatMap_singleton, List.getLast?_append_of_ne_nil _ someNegated,
      List.getLast?_append_of_ne_nil _ someText, ends]

theorem trim_negateTurns (trimmed : Text.trim fragment = fragment) :
    Text.trim (negateTurns fragment) = negateTurns fragment := by
  apply Text.trim_of_edges
  · rw [head?_negateTurns, ← trimmed]
    exact Text.head?_trim fragment
  · rw [getLast?_negateTurns, ← trimmed]
    exact Text.getLast?_trim fragment

/-- What stands between the slashes of a text, trimmed. -/
def fragments (scramble : Text) : List Text :=
  (scramble.splitOn '/').map Text.trim

theorem trim_of_mem_fragments {scramble : Text} (member : fragment ∈ fragments scramble) :
    Text.trim fragment = fragment := by
  obtain ⟨source, -, rfl⟩ := List.mem_map.mp member
  exact Text.trim_trim source

theorem no_slash_of_mem_fragments {scramble : Text} (member : fragment ∈ fragments scramble) :
    '/' ∉ fragment := by
  obtain ⟨source, sourceMember, rfl⟩ := List.mem_map.mp member
  exact fun slash => Text.not_mem_of_mem_splitOn sourceMember (Text.mem_of_mem_trim slash)

theorem invert_eq (scramble : Text) :
    invert scramble = Text.joinWith '/' ((fragments scramble).reverse.map negateTurns) := by
  rw [invert, fragments, ← Text.map_trim_splitOn_trim, ← List.map_reverse, List.map_map]
  rfl

theorem splitOn_invert (scramble : Text) :
    (invert scramble).splitOn '/' = (fragments scramble).reverse.map negateTurns := by
  rw [invert_eq]
  refine Text.splitOn_joinWith (by simp [fragments]) fun piece member => ?_
  obtain ⟨fragment, inReverse, rfl⟩ := List.mem_map.mp member
  exact no_slash_negateTurns (no_slash_of_mem_fragments (List.mem_reverse.mp inReverse))

theorem fragments_invert (scramble : Text) :
    fragments (invert scramble) = (fragments scramble).reverse.map negateTurns := by
  rw [fragments, splitOn_invert, List.map_map]
  refine List.map_congr_left fun fragment member => trim_negateTurns ?_
  exact trim_of_mem_fragments (List.mem_reverse.mp member)

/-- The inverse of a text has the parts of its fragments, the last fragment first, with nothing
changed but the numerals. Inverting once more takes the numerals back to those of the text, and a
third time gives the first inverse again. -/
theorem invert_invert_invert (scramble : Text) :
    ((invert scramble).splitOn '/').map Part.ofText =
        (fragments scramble).reverse.map (fun fragment =>
          (Part.ofText fragment).map Part.negate) ∧
      invert (invert (invert scramble)) = invert scramble := by
  constructor
  · rw [splitOn_invert, List.map_map]
    exact List.map_congr_left fun fragment _ => ofText_negateTurns fragment
  · rw [invert_eq, fragments_invert, fragments_invert, invert_eq]
    simp only [← List.map_reverse, List.reverse_reverse, List.map_map]
    exact congrArg _ (List.map_congr_left fun fragment _ => negateTurns_settles fragment)

end Scramble

end SquareOne
