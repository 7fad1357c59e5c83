import SquareOne.Proofs.Scramble.WordLevel

/-! Canonical layouts, whose words all hold a comma. Every expansion joins one with slashes, and
such a text is its own expansion.
-/

namespace SquareOne

namespace Shorthand

open Scramble (IsWord IsPair)

/-- A block of pairs, at least one. -/
def Block.OfPairs (block : Block) : Prop :=
  block.words ≠ [] ∧ ∀ word ∈ block.words, IsPair word

theorem Block.ofPairs_ofWord {alignment : Alignment} {word : Text} {block : Block}
    (isWord : IsWord word) (read : Block.ofWord alignment word = .ok block) : block.OfPairs := by
  by_cases comma : word.contains ',' = true
  · rw [Block.ofWord, if_pos comma] at read
    cases read
    refine ⟨List.cons_ne_nil word [], fun part member => ?_⟩
    obtain rfl := List.mem_singleton.mp member
    exact ⟨isWord, by simpa using comma⟩
  · rw [Block.ofWord, if_neg comma] at read
    cases found : catalogue.lookup word alignment with
    | error fault =>
        rw [found] at read
        cases read
    | ok fragment =>
        rw [found] at read
        cases read
        obtain ⟨-, nonempty, areLetters⟩ := lookup_shape found
        refine ⟨Scramble.flatMap_letters_ne_nil nonempty, fun part member => ?_⟩
        obtain ⟨letter, letterMember, inLetters⟩ := List.mem_flatMap.mp member
        exact Scramble.isPair_of_mem_letters (areLetters letter letterMember) inLetters

theorem readBlocks_cons {alignment : Alignment} {word : Text} {rest : List Text}
    {blocks : List Block} (read : readBlocks alignment (word :: rest) = .ok blocks) :
    ∃ block others, blocks = block :: others ∧ Block.ofWord alignment word = .ok block ∧
      readBlocks (alignment.track block.turns) rest = .ok others := by
  cases first : Block.ofWord alignment word with
  | error fault => simp [readBlocks, first, bind, Except.bind] at read
  | ok block =>
      cases behind : readBlocks (alignment.track block.turns) rest with
      | error fault => simp [readBlocks, first, behind, bind, Except.bind] at read
      | ok others =>
          simp only [readBlocks, first, behind, bind, Except.bind] at read
          cases read
          exact ⟨block, others, rfl, rfl, behind⟩

theorem readBlocks_ofPairs {alignment : Alignment} {words : List Text} {blocks : List Block}
    (areWords : ∀ word ∈ words, IsWord word) (read : readBlocks alignment words = .ok blocks) :
    ∀ block ∈ blocks, block.OfPairs := by
  induction words generalizing alignment blocks with
  | nil =>
      cases read
      simp
  | cons word rest ih =>
      obtain ⟨block, others, rfl, first, behind⟩ := readBlocks_cons read
      have othersOfPairs := ih (fun next member => areWords next (List.mem_cons_of_mem _ member))
        behind
      exact List.forall_mem_cons.mpr
        ⟨Block.ofPairs_ofWord (areWords word List.mem_cons_self) first, othersOfPairs⟩

end Shorthand

namespace Scramble

open Rewrite (letters)
open Shorthand (Block readBlocks)

namespace Layout

structure IsCanonical (layout : Layout) : Prop where
  arePairs : ∀ word ∈ layout.words, IsPair word
  sameEdges : layout.words = [] → layout.lead = layout.trail

instance (layout : Layout) : Decidable layout.IsCanonical :=
  decidable_of_iff
    ((∀ word ∈ layout.words, IsPair word) ∧ (layout.words = [] → layout.lead = layout.trail))
    ⟨fun both => ⟨both.1, both.2⟩, fun canonical => ⟨canonical.arePairs, canonical.sameEdges⟩⟩

variable {layout result : Layout}

theorem IsCanonical.wellFormed (canonical : layout.IsCanonical) : layout.WellFormed where
  areWords := fun word member => (canonical.arePairs word member).1
  sameEdges := canonical.sameEdges

theorem laidOut_isCanonical {blocks : List Block} (ofPairs : ∀ block ∈ blocks, block.OfPairs)
    {lead trail : Bool} (sameEdges : blocks = [] → lead = trail) :
    (Block.laidOut lead blocks trail).IsCanonical where
  arePairs := by
    intro word member
    rcases Block.mem_spread member with rfl | ⟨block, blockMember, inWords⟩
    · decide
    · exact (ofPairs block blockMember).2 word inWords
  sameEdges := by
    intro empty
    cases blocks with
    | nil => rw [Block.laidOut, sameEdges rfl]; rfl
    | cons block rest =>
        have nonempty := (ofPairs block List.mem_cons_self).1
        cases block with
        | pair word => cases empty
        | sequence words => exact absurd (List.append_eq_nil_iff.mp empty).1 nonempty

theorem expanded_eq_ok (expanded : layout.expanded = .ok result) :
    ∃ blocks, readBlocks .square layout.numbered.lettered.words = .ok blocks ∧
      result = Block.laidOut layout.lead blocks layout.trail := by
  simp only [Layout.expanded] at expanded
  split at expanded
  · cases expanded
  · cases read : readBlocks .square layout.numbered.lettered.words with
    | error fault =>
        rw [read] at expanded
        cases expanded
    | ok blocks =>
        rw [read] at expanded
        cases expanded
        exact ⟨blocks, rfl, rfl⟩

theorem laidOut_isCanonical_of_read (wellFormed : layout.WellFormed) {blocks : List Block}
    (read : readBlocks .square layout.numbered.lettered.words = .ok blocks) :
    (Block.laidOut layout.lead blocks layout.trail).IsCanonical := by
  have settled := lettered_wellFormed (numbered_wellFormed wellFormed)
  apply laidOut_isCanonical (Shorthand.readBlocks_ofPairs settled.areWords read)
  intro empty
  apply settled.sameEdges
  cases words : layout.numbered.lettered.words with
  | nil => rfl
  | cons word rest =>
      rw [words, empty] at read
      obtain ⟨block, others, nonempty, -, -⟩ := Shorthand.readBlocks_cons read
      cases nonempty

/-- Whatever the words of a text are, those of its expansion are pairs. -/
theorem expanded_isCanonical (wellFormed : layout.WellFormed)
    (expanded : layout.expanded = .ok result) : result.IsCanonical := by
  obtain ⟨blocks, read, rfl⟩ := expanded_eq_ok expanded
  exact laidOut_isCanonical_of_read wellFormed read

/-- Pairs need no expansion. -/
theorem expanded_of_isCanonical (canonical : layout.IsCanonical) :
    layout.expanded = .ok layout := by
  have commas : ∀ word ∈ layout.words, ',' ∈ word := fun word member =>
    (canonical.arePairs word member).2
  have short : ∀ word ∈ layout.words, isOverlong word = false := fun word member =>
    isOverlong_of_comma (commas word member)
  have sameWords : layout.numbered.lettered.words = layout.words := by
    have numbered : layout.words.map withComma = layout.words :=
      (List.map_congr_left fun word member => withComma_of_comma (commas word member)).trans
        (List.map_id _)
    have lettered : layout.words.flatMap letters = layout.words :=
      Text.flatMap_eq_self fun word member => letters_of_comma (commas word member)
    exact (congrArg (List.flatMap letters) numbered).trans lettered
  rw [expanded_of_short canonical.wellFormed short, sameWords,
    Shorthand.readBlocks_of_commas commas]
  exact congrArg Except.ok (Block.laidOut_pairs layout)

theorem expand_joined (canonical : layout.IsCanonical) :
    expand (layout.joined '/') = .ok (layout.joined '/') := by
  rw [expand_eq_expanded, ofText_joined canonical.wellFormed (by decide),
    expanded_of_isCanonical canonical]
  rfl

/-- Only at its two ends has a layout pieces that are no words. -/
theorem mem_words_of_inner (canonical : layout.IsCanonical) {front behind : List Text}
    {piece : Text} (cut : layout.pieces = front ++ piece :: behind) (someFront : front ≠ [])
    (someBehind : behind ≠ []) : piece ∈ layout.words := by
  have inner : piece ∈ layout.pieces.tail.dropLast := by
    obtain ⟨first, others, rfl⟩ := List.exists_cons_of_ne_nil someFront
    rw [cut, List.cons_append, List.tail_cons, List.dropLast_append_of_ne_nil (by simp),
      List.dropLast_cons_of_ne_nil someBehind]
    simp
  obtain ⟨lead, words, trail⟩ := layout
  have sameEdges := canonical.sameEdges
  cases lead with
  | true =>
      cases trail with
      | true => simpa [pieces] using inner
      | false =>
          simp only [pieces, edge_true, edge_false, List.append_nil, List.singleton_append,
            List.tail_cons] at inner
          exact List.dropLast_subset _ inner
  | false =>
      cases trail with
      | true =>
          cases words with
          | nil => cases sameEdges rfl
          | cons word rest =>
              simp only [pieces, edge_true, edge_false, List.nil_append, List.cons_append,
                List.tail_cons, List.dropLast_concat] at inner
              exact List.mem_cons_of_mem _ inner
      | false =>
          simp only [pieces, edge_false, List.nil_append, List.append_nil] at inner
          exact List.mem_of_mem_tail (List.dropLast_subset _ inner)

theorem no_slashes_joined (canonical : layout.IsCanonical) :
    ¬['/', '/'] <:+: layout.joined '/' := by
  rintro ⟨before, after, same⟩
  have parted : (layout.joined '/').splitOn '/' =
      before.splitOn '/' ++ [] :: after.splitOn '/' := by
    rw [← same, List.append_assoc, List.cons_append, List.cons_append, List.nil_append,
      List.splitOn_append_cons_self, List.splitOn_cons_eq_if_modifyHead]
    rfl
  have nonempty : layout.pieces ≠ [] := by
    intro empty
    rw [joined, empty] at same
    simp at same
  rw [splitOn_joined canonical.wellFormed (by decide) nonempty] at parted
  have inner := mem_words_of_inner canonical parted (List.splitOn_ne_nil _ _)
    (List.splitOn_ne_nil _ _)
  exact (canonical.arePairs [] inner).1.1 rfl

theorem comma_of_mem_splitOn (canonical : layout.IsCanonical) {fragment : Text}
    (member : fragment ∈ (layout.joined '/').splitOn '/') (nonempty : fragment ≠ []) :
    ',' ∈ fragment := by
  by_cases empty : layout.pieces = []
  · rw [joined, empty] at member
    exact absurd (List.mem_singleton.mp member) nonempty
  · rw [splitOn_joined canonical.wellFormed (by decide) empty] at member
    have inWords := (mem_pieces member).resolve_left nonempty
    exact (canonical.arePairs fragment inWords).2

end Layout

theorem exists_canonical_of_expand {scramble expansion : Text}
    (expanded : expand scramble = .ok expansion) :
    ∃ layout : Layout, layout.IsCanonical ∧ expansion = layout.joined '/' := by
  rw [expand_eq_expanded] at expanded
  cases result : (Layout.ofText scramble).expanded with
  | error fault =>
      rw [result] at expanded
      cases expanded
  | ok layout =>
      rw [result] at expanded
      cases expanded
      exact ⟨layout, Layout.expanded_isCanonical (Layout.ofText_wellFormed scramble) result, rfl⟩

theorem compile_eq (scramble : Text) (start : State) :
    compile scramble start =
      match expand scramble with
      | .error fault => .error fault
      | .ok expansion => .ok (start.applyAll (Move.readAll expansion)) := by
  rw [compile, moves]
  cases expand scramble <;> rfl

theorem compile_of_expand {scramble expansion : Text} (expanded : expand scramble = .ok expansion)
    (start : State) :
    compile scramble start = .ok (start.applyAll (Move.readAll expansion)) := by
  rw [compile_eq, expanded]

theorem expand_of_expanded {scramble : Text} {layout : Layout}
    (expanded : (Layout.ofText scramble).expanded.toOption = some layout) :
    expand scramble = .ok (layout.joined '/') := by
  rw [expand_eq_expanded, ok_of_toOption expanded]
  rfl

theorem expand_of_isCanonical {scramble : Text} (canonical : (Layout.ofText scramble).IsCanonical) :
    expand scramble = .ok ((Layout.ofText scramble).joined '/') := by
  rw [expand_eq_expanded, Layout.expanded_of_isCanonical canonical]
  rfl

/-- The expansion of any text has one form: commas in all that stands between its slashes, no two of
which meet, and nothing left of what separates words in raw text. Expanding it again changes
nothing, so that it compiles to the same states as the text does. -/
theorem expand_canonical {scramble expansion : Text} (expanded : expand scramble = .ok expansion) :
    (∀ char ∈ expansion, Text.isBlank char = false ∧ isParenthesis char = false ∧ char ≠ '\\') ∧
      ¬['/', '/'] <:+: expansion ∧
      (∀ fragment ∈ expansion.splitOn '/', fragment ≠ [] → ',' ∈ fragment) ∧
      expand expansion = .ok expansion ∧
      ∀ start, ∃ state,
        compile expansion start = .ok state ∧ compile scramble start = .ok state := by
  obtain ⟨layout, canonical, rfl⟩ := exists_canonical_of_expand expanded
  have again := Layout.expand_joined canonical
  refine ⟨fun char member => ?_, Layout.no_slashes_joined canonical,
    fun fragment => Layout.comma_of_mem_splitOn canonical, again, fun start => ?_⟩
  · rcases Layout.mem_joined canonical.wellFormed member with rfl | ⟨solid, other⟩
    · exact ⟨by decide, by decide, by decide⟩
    · simp only [isSeparator, Bool.or_eq_false_iff, beq_eq_false_iff_ne] at solid
      exact ⟨solid.2, other, solid.1.2⟩
  · exact ⟨_, compile_of_expand again start, compile_of_expand expanded start⟩

theorem expand_canonical_shorthand :
    expand "(1,0) bpj\\ ".toList = .ok "1,0/-1,2/-2,-2/3,0/".toList ∧
      expand "1,0/-1,2/-2,-2/3,0/".toList = .ok "1,0/-1,2/-2,-2/3,0/".toList := by
  have words : (Layout.ofText "(1,0) bpj\\ ".toList).expanded.toOption =
      some ⟨false, "1,0/-1,2/-2,-2/3,0".toList.splitOn '/', true⟩ := by
    decide +kernel
  have expanded : expand "(1,0) bpj\\ ".toList = .ok "1,0/-1,2/-2,-2/3,0/".toList :=
    (expand_of_expanded words).trans (congrArg Except.ok (by decide +kernel))
  exact ⟨expanded, (expand_canonical expanded).2.2.2.1⟩

end Scramble

end SquareOne
