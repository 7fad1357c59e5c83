import SquareOne.Proofs.Puzzle.MoveLaws
import SquareOne.Proofs.Scramble.Canonical
import SquareOne.Proofs.Scramble.Inversion

/-! The inverse of an expansion. It is again laid out canonically: the words stand in the opposite
order with their numerals negated, so that it reads as the inverse moves.
-/

namespace SquareOne

namespace Part

open Scramble (IsWord IsPair)

theorem ofText_append_of_isWord {word rest : Text} (isWord : IsWord word)
    (parted : ∀ other parts, ofText rest ≠ .run other :: parts) :
    ofText (word ++ rest) = .run word :: ofText rest :=
  ofText_run isWord.1 (fun char member => isRunChar_of_wordChar (isWord.2 char member)) parted

theorem ofText_of_isWord {word : Text} (isWord : IsWord word) : ofText word = [.run word] := by
  have alone : ofText (word ++ []) = .run word :: ofText [] :=
    ofText_append_of_isWord isWord fun _ _ same => by cases same
  rwa [List.append_nil] at alone

theorem isPair_negateList {word : Text} (isPair : IsPair word) : IsPair (negateList word) := by
  have comma := comma_mem_negateList isPair.2
  refine ⟨⟨List.ne_nil_of_mem comma, fun char member => ?_⟩, comma⟩
  rcases mem_negateList member with rfl | inWord | rfl | digit
  · decide
  · exact isPair.1.2 char inWord
  · decide
  · exact Scramble.wordChar_of_isDigit digit

end Part

theorem Turn.read?_negateList {word : Text} (isPair : Scramble.IsPair word) :
    Turn.read? (Part.negateList word) = (Turn.read? word).map Turn.negate := by
  have parts := Part.splitOn_negateList word
  rw [Turn.read?, Turn.read?, isPair.1.bare_eq, (Part.isPair_negateList isPair).1.bare_eq,
    parts]
  rcases word.splitOn ',' with _ | ⟨top, _ | ⟨bottom, _ | ⟨third, rest⟩⟩⟩
  · rfl
  · rfl
  · simp only [List.map_cons, List.map_nil, Part.read?_negateNumeral]
    cases Numeral.read? (Text.trim top) <;> cases Numeral.read? (Text.trim bottom) <;> rfl
  · rfl

namespace Scramble

open SquareOne.Part (negateList)

theorem negateTurns_of_isPair {word : Text} (isPair : IsPair word) :
    negateTurns word = negateList word := by
  have comma : word.contains ',' = true := by simpa using isPair.2
  rw [negateTurns, Part.ofText_of_isWord isPair.1, List.flatMap_singleton, Part.negate, comma]
  rfl

theorem readAll_negateList {word : Text} (isPair : IsPair word) :
    Move.readAll (negateList word) = Move.inverses (Move.readAll word) := by
  have negated := Part.isPair_negateList isPair
  rw [Move.readAll_of_solid isPair.1.1 isPair.1.no_slash isPair.1.no_blank,
    Move.readAll_of_solid negated.1.1 negated.1.no_slash negated.1.no_blank,
    Turn.read?_negateList isPair]
  cases Turn.read? word <;> rfl

namespace Layout

variable {layout : Layout}

def reversed (layout : Layout) : Layout :=
  ⟨layout.trail, layout.words.reverse.map negateList, layout.lead⟩

theorem reversed_isCanonical (canonical : layout.IsCanonical) : layout.reversed.IsCanonical where
  arePairs := by
    intro word member
    obtain ⟨source, sourceMember, rfl⟩ := List.mem_map.mp member
    exact Part.isPair_negateList (canonical.arePairs source (List.mem_reverse.mp sourceMember))
  sameEdges := by
    intro empty
    have noWords : layout.words = [] := by simpa [reversed] using empty
    exact (canonical.sameEdges noWords).symm

/-- The pieces of the inverse are those of the layout, the last first, changed by anything that
negates its words and leaves nothing of an edge. -/
theorem reversed_pieces (layout : Layout) {β : Type} (change negated : Text → β)
    (edges : change [] = negated [])
    (words : ∀ word ∈ layout.words, change word = negated (negateList word)) :
    layout.pieces.reverse.map change = layout.reversed.pieces.map negated := by
  have ofEdge : ∀ present, (edge present).reverse.map change = (edge present).map negated := by
    intro present
    cases present with
    | false => rfl
    | true => simp [edges]
  have ofWords : layout.words.reverse.map change =
      (layout.words.reverse.map negateList).map negated := by
    rw [List.map_map]
    exact List.map_congr_left fun word member => words word (List.mem_reverse.mp member)
  rw [pieces, pieces, List.reverse_append, List.reverse_append, List.map_append, List.map_append,
    List.map_append, List.map_append, ofEdge, ofEdge, ofWords, List.append_assoc]
  rfl

theorem invert_joined (canonical : layout.IsCanonical) :
    invert (layout.joined '/') = layout.reversed.joined '/' := by
  have words : ∀ word ∈ layout.words, negateTurns (Text.trim word) = negateList word := by
    intro word member
    have isPair := canonical.arePairs word member
    rw [Text.trim_of_solid isPair.1.no_blank, negateTurns_of_isPair isPair]
  have pieces := reversed_pieces layout (fun piece => negateTurns (Text.trim piece)) id rfl words
  rw [List.map_id] at pieces
  by_cases empty : layout.pieces = []
  · rw [empty] at pieces
    rw [joined, joined, empty, ← pieces]
    rfl
  · rw [invert_eq, fragments, splitOn_joined canonical.wellFormed (by decide) empty,
      ← List.map_reverse, List.map_map, joined, ← pieces]
    rfl

theorem readAll_reversed (canonical : layout.IsCanonical) :
    Move.readAll (layout.reversed.joined '/') =
      Move.inverses (Move.readAll (layout.joined '/')) := by
  have pieces := reversed_pieces layout (fun piece => Move.inverses (Move.readAll piece))
    Move.readAll rfl fun word member => (readAll_negateList (canonical.arePairs word member)).symm
  rw [joined, joined, Move.readAll_joinWith_slash, Move.readAll_joinWith_slash,
    Move.inverses_intercalate_swap, ← pieces, ← List.map_reverse, List.map_map]
  rfl

end Layout

theorem compileInverse_eq (scramble : Text) (start : State) :
    compileInverse scramble start =
      match expand scramble with
      | .error fault => .error fault
      | .ok expansion => compile (invert expansion) start := by
  rw [compileInverse, expandInverse]
  cases expand scramble <;> simp only [bind, Except.bind, pure, Except.pure]

/-- The inverse of an expansion is an expansion, that of the inverse moves. -/
theorem expand_invert {scramble expansion : Text} (expanded : expand scramble = .ok expansion) :
    expand (invert expansion) = .ok (invert expansion) ∧
      Move.readAll (invert expansion) = Move.inverses (Move.readAll expansion) := by
  obtain ⟨layout, canonical, rfl⟩ := exists_canonical_of_expand expanded
  rw [Layout.invert_joined canonical]
  exact ⟨Layout.expand_joined (Layout.reversed_isCanonical canonical),
    Layout.readAll_reversed canonical⟩

theorem compileInverse_of_expand {scramble expansion : Text}
    (expanded : expand scramble = .ok expansion) (start : State) :
    compileInverse scramble start =
      .ok (start.applyAll (Move.inverses (Move.readAll expansion))) := by
  obtain ⟨invertedExpanded, reading⟩ := expand_invert expanded
  rw [compileInverse_eq, expanded, ← reading]
  exact compile_of_expand invertedExpanded start

theorem compileInverse_eq_error {scramble : Text} {start : State} {fault : Fault} :
    compileInverse scramble start = .error fault ↔ expand scramble = .error fault := by
  cases expanded : expand scramble with
  | error other => simp only [compileInverse_eq, expanded, Except.error.injEq]
  | ok expansion =>
      rw [compileInverse_of_expand expanded]
      constructor <;> intro same <;> cases same

/-- Scrambling and solving take each other back from every state. The inverse of the expansion is
made on its text and expanded once more, and still reads as the same moves from the last to the
first, each one inverted; it is refused only where the scramble is, and for the same cause. -/
theorem compileInverse_twoSided (scramble : Text) :
    (∀ start fault,
      compileInverse scramble start = .error fault ↔ expand scramble = .error fault) ∧
    ∀ expansion, expand scramble = .ok expansion →
      (∃ inverted, expand (invert expansion) = .ok inverted ∧
        Move.readAll inverted = ((Move.readAll expansion).map Move.inverse).reverse) ∧
      ∀ start : State, ∃ scrambled solved,
        compile scramble start = .ok scrambled ∧ compileInverse scramble scrambled = .ok start ∧
        compileInverse scramble start = .ok solved ∧ compile scramble solved = .ok start := by
  constructor
  · intro start fault
    exact compileInverse_eq_error
  intro expansion expanded
  obtain ⟨invertedExpanded, reading⟩ := expand_invert expanded
  constructor
  · exact ⟨invert expansion, invertedExpanded, reading⟩
  · intro start
    have there := State.applyAll_inverses start (Move.readAll expansion)
    have back := State.applyAll_inverses_first start (Move.readAll expansion)
    refine ⟨_, _, compile_of_expand expanded start, ?_, compileInverse_of_expand expanded start, ?_⟩
    · rw [compileInverse_of_expand expanded, there]
    · rw [compile_of_expand expanded, back]

theorem compileInverse_twoSided_shorthand :
    ∃ scrambled, compile "10 bpj".toList State.solved = .ok scrambled ∧
      compileInverse "10 bpj".toList scrambled = .ok State.solved := by
  have words : (Layout.ofText "10 bpj".toList).expanded.toOption =
      some ⟨false, "1,0/-1,2/-2,-2/3,0".toList.splitOn '/', true⟩ := by
    decide +kernel
  have expanded := expand_of_expanded words
  obtain ⟨scrambled, -, forth, back, -⟩ :=
    ((compileInverse_twoSided "10 bpj".toList).2 _ expanded).2 State.solved
  exact ⟨scrambled, forth, back⟩

end Scramble

end SquareOne
