import SquareOne.Proofs.Text.Words
import SquareOne.Scramble.Words

/-! The layout of a scramble: its words in order, and whether a separator stands before the first
and behind the last of them.

A text has one layout, whatever stands between its words; flattening joins the layout with spaces.
-/

namespace SquareOne.Scramble

/-- A slash of either kind or a blank. -/
def isSeparator (char : Char) : Bool :=
  char == '/' || char == '\\' || Text.isBlank char

theorem isSeparator_of_isBlank {char : Char} (blank : Text.isBlank char = true) :
    isSeparator char = true := by
  simp [isSeparator, blank]

theorem not_parenthesis_of_gap {char : Char} (gap : isSeparator char = true) :
    isParenthesis char = false := by
  by_contra parenthesis
  simp only [isParenthesis, Bool.not_eq_false, Bool.or_eq_true, beq_iff_eq] at parenthesis
  rcases parenthesis with rfl | rfl <;> exact absurd gap (by decide)

theorem bare_append_gap {separator : Char} (gap : isSeparator separator = true)
    (front back : Text) :
    bare (front ++ separator :: back) = bare front ++ separator :: bare back := by
  rw [bare_append, bare_cons (not_parenthesis_of_gap gap)]

structure Layout where
  lead : Bool
  words : List Text
  trail : Bool
deriving DecidableEq, Repr

/-- A word of a scramble without its parentheses. -/
def IsWord (word : Text) : Prop :=
  word ≠ [] ∧ ∀ char ∈ word, isSeparator char = false ∧ isParenthesis char = false

-- Decided character by character of the word, not by a search through all characters.
instance : DecidablePred IsWord := fun word =>
  decidable_of_iff
    (word ≠ [] ∧ word.all (fun char => !isSeparator char && !isParenthesis char) = true)
    (by simp [IsWord])

theorem IsWord.not_mem {word : Text} (isWord : IsWord word) {separator : Char}
    (gap : isSeparator separator = true) : separator ∉ word := by
  intro member
  have solid := (isWord.2 separator member).1
  rw [gap] at solid
  cases solid

theorem IsWord.no_space {word : Text} (isWord : IsWord word) : ' ' ∉ word :=
  isWord.not_mem (by decide)

theorem IsWord.no_slash {word : Text} (isWord : IsWord word) : '/' ∉ word :=
  isWord.not_mem (by decide)

theorem not_blank_of_solid {char : Char} (solid : isSeparator char = false) :
    Text.isBlank char = false := by
  rw [isSeparator, Bool.or_eq_false_iff] at solid
  exact solid.2

theorem IsWord.no_blank {word : Text} (isWord : IsWord word) :
    ∀ char ∈ word, Text.isBlank char = false :=
  fun char member => not_blank_of_solid (isWord.2 char member).1

theorem IsWord.bare_eq {word : Text} (isWord : IsWord word) : bare word = word :=
  bare_eq_self fun char member => (isWord.2 char member).2

namespace Layout

/-- Nothing at all, or an empty piece, which becomes a separator when it is joined. -/
def edge (present : Bool) : List Text :=
  if present then [[]] else []

@[simp] theorem edge_true : edge true = [[]] := rfl

@[simp] theorem edge_false : edge false = [] := rfl

def pieces (layout : Layout) : List Text :=
  edge layout.lead ++ layout.words ++ edge layout.trail

def joined (layout : Layout) (separator : Char) : Text :=
  Text.joinWith separator layout.pieces

/-- The layout of a text; parentheses do not count. -/
def ofText (scramble : Text) : Layout :=
  ⟨(bare scramble).head?.any isSeparator, (bare scramble).wordsBy isSeparator,
    (bare scramble).getLast?.any isSeparator⟩

/-- What is true of the layout of any text; without words the two separators are one. -/
structure WellFormed (layout : Layout) : Prop where
  areWords : ∀ word ∈ layout.words, IsWord word
  sameEdges : layout.words = [] → layout.lead = layout.trail

theorem ofText_wellFormed (scramble : Text) : (ofText scramble).WellFormed where
  areWords := by
    intro word member
    obtain ⟨nonempty, chars⟩ := Text.mem_of_mem_wordsBy member
    exact ⟨nonempty, fun char inWord =>
      ⟨(chars char inWord).2, (mem_bare.mp (chars char inWord).1).2⟩⟩
  sameEdges := by
    intro noWords
    simp only [ofText] at noWords ⊢
    generalize bare scramble = text at noWords ⊢
    have gaps := Text.wordsBy_eq_nil_iff.mp noWords
    cases text with
    | nil => rfl
    | cons first rest =>
        have last := gaps _ (List.getLast_mem (List.cons_ne_nil first rest))
        rw [List.getLast?_eq_some_getLast (List.cons_ne_nil first rest)]
        simp [gaps first (by simp), last]

end Layout

theorem isBlank_openSlash (char : Char) : Text.isBlank (openSlash char) = isSeparator char := by
  unfold openSlash isSeparator
  by_cases slash : (decide (char = '/') || decide (char = '\\')) = true
  · rw [if_pos slash]
    simp only [Bool.or_eq_true, decide_eq_true_eq] at slash
    rcases slash with rfl | rfl <;> decide
  · rw [if_neg slash]
    simp only [Bool.or_eq_true, decide_eq_true_eq, not_or] at slash
    simp [slash.1, slash.2]

theorem openSlash_of_solid {char : Char} (solid : isSeparator char = false) :
    openSlash char = char := by
  simp only [isSeparator, Bool.or_eq_false_iff, beq_eq_false_iff_ne] at solid
  simp [openSlash, solid.1.1, solid.1.2]

/-- Runs of separators become single spaces, and so do those at the two ends. -/
theorem collapse_map_openSlash (text : Text) :
    Text.collapse (text.map openSlash) =
      (Layout.mk (text.head?.any isSeparator) (Text.wordsBy isSeparator text)
        (text.getLast?.any isSeparator)).joined ' ' := by
  induction text with
  | nil => rfl
  | cons char rest ih =>
      rw [List.map_cons, Text.collapse, ih, isBlank_openSlash]
      -- Whether the character starts a word, continues one or parts two shows in its neighbour.
      by_cases gap : isSeparator char = true
      · rw [Text.wordsBy_cons_gap gap]
        cases rest with
        | nil => simp [gap, Layout.joined, Layout.pieces, Layout.edge, Text.joinWith]
        | cons next rest =>
            by_cases nextGap : isSeparator next = true
            · simp [gap, nextGap, isBlank_openSlash, List.getLast?_cons_cons]
            · have words : Text.wordsBy isSeparator (next :: rest) ≠ [] := fun empty =>
                nextGap (Text.wordsBy_eq_nil_iff.mp empty next (by simp))
              have behind : Text.wordsBy isSeparator (next :: rest) ++
                  Layout.edge ((next :: rest).getLast?.any isSeparator) ≠ [] := by simp [words]
              have opened := Text.joinWith_nil_cons ' ' behind
              simp only [Bool.not_eq_true] at nextGap
              simp only [List.map_cons, List.head?_cons, Option.any_some, isBlank_openSlash, gap,
                nextGap, Bool.and_false, Bool.false_eq_true, if_false, if_true,
                List.getLast?_cons_cons, Layout.joined, Layout.pieces, Layout.edge_true,
                Layout.edge_false, List.nil_append, List.cons_append]
              exact opened.symm
      · have solid : isSeparator char = false := by simpa using gap
        rw [openSlash_of_solid solid]
        cases rest with
        | nil =>
            have single : Text.wordsBy isSeparator [char] = [[char]] :=
              Text.wordsBy_of_solid (by simp) (by simpa using solid)
            simp [solid, single, Layout.joined, Layout.pieces, Layout.edge]
        | cons next rest =>
            by_cases nextGap : isSeparator next = true
            · have parted : Text.wordsBy isSeparator (char :: next :: rest) =
                  [char] :: Text.wordsBy isSeparator (next :: rest) := by
                rw [show char :: next :: rest = [char] ++ next :: rest from rfl,
                  Text.wordsBy_append_gap nextGap, Text.wordsBy_cons_gap nextGap,
                  Text.wordsBy_of_solid (by simp) (by simpa using solid), List.singleton_append]
              simp only [parted, solid, nextGap, List.head?_cons, Option.any_some, Bool.false_and,
                Bool.false_eq_true, if_false, List.getLast?_cons_cons, Layout.joined,
                Layout.pieces, Layout.edge_true, Layout.edge_false, List.nil_append,
                List.cons_append, Text.joinWith_cons_char]
            · have nextSolid : isSeparator next = false := by simpa using nextGap
              obtain ⟨word, words, shorter, longer⟩ :=
                @Text.wordsBy_cons_solid _ char next rest solid nextSolid
              simp only [shorter, longer, solid, nextSolid, List.head?_cons, Option.any_some,
                Bool.false_and, Bool.false_eq_true, if_false, List.getLast?_cons_cons,
                Layout.joined, Layout.pieces, Layout.edge_false, List.nil_append,
                List.cons_append, Text.joinWith_cons_char]

theorem flatten_eq_joined (scramble : Text) :
    flatten scramble = (Layout.ofText scramble).joined ' ' := by
  have commute : bare (scramble.map openSlash) = (bare scramble).map openSlash := by
    rw [bare, bare, List.filter_map]
    congr 1
    apply List.filter_congr
    intro char _
    by_cases slash : char = '/' ∨ char = '\\'
    · rcases slash with rfl | rfl <;> rfl
    · simp [openSlash, not_or.mp slash]
  rw [flatten, commute, collapse_map_openSlash]
  rfl

namespace Layout

variable {layout : Layout} {separator : Char}

theorem mem_pieces {piece : Text} (member : piece ∈ layout.pieces) :
    piece = [] ∨ piece ∈ layout.words := by
  have ofEdge : ∀ present, piece ∈ edge present → piece = [] := by
    intro present
    cases present <;> simp
  simp only [pieces, List.mem_append] at member
  rcases member with (inLead | inWords) | inTrail
  · exact .inl (ofEdge _ inLead)
  · exact .inr inWords
  · exact .inl (ofEdge _ inTrail)

theorem pieces_clean (wellFormed : layout.WellFormed) {piece : Text}
    (member : piece ∈ layout.pieces) :
    piece = [] ∨ piece ∈ layout.words ∧ IsWord piece := by
  rcases mem_pieces member with empty | inWords
  · exact .inl empty
  · exact .inr ⟨inWords, wellFormed.areWords piece inWords⟩

theorem not_mem_of_mem_pieces (wellFormed : layout.WellFormed)
    (gap : isSeparator separator = true) {piece : Text} (member : piece ∈ layout.pieces) :
    separator ∉ piece := by
  rcases pieces_clean wellFormed member with rfl | ⟨-, isWord⟩
  · exact List.not_mem_nil
  · exact isWord.not_mem gap

theorem splitOn_joined (wellFormed : layout.WellFormed) (gap : isSeparator separator = true)
    (nonempty : layout.pieces ≠ []) :
    (layout.joined separator).splitOn separator = layout.pieces :=
  Text.splitOn_joinWith nonempty fun _ member => not_mem_of_mem_pieces wellFormed gap member

theorem mem_joined (wellFormed : layout.WellFormed) {char : Char}
    (member : char ∈ layout.joined separator) :
    char = separator ∨ isSeparator char = false ∧ isParenthesis char = false := by
  rcases Text.mem_joinWith member with same | ⟨piece, pieceMember, inPiece⟩
  · exact .inl same
  · rcases pieces_clean wellFormed pieceMember with rfl | ⟨-, isWord⟩
    · simp at inPiece
    · exact .inr (isWord.2 char inPiece)

theorem wordsBy_joined (wellFormed : layout.WellFormed) (gap : isSeparator separator = true) :
    (layout.joined separator).wordsBy isSeparator = layout.words := by
  have edges : ∀ present, (edge present).flatMap (Text.wordsBy isSeparator) = [] := by
    intro present
    cases present <;> simp
  have solid : layout.words.flatMap (Text.wordsBy isSeparator) = layout.words :=
    Text.flatMap_eq_self fun word member =>
      Text.wordsBy_of_solid (wellFormed.areWords word member).1 fun char inWord =>
        ((wellFormed.areWords word member).2 char inWord).1
  rw [joined, Text.wordsBy_joinWith gap, pieces, List.flatMap_append, List.flatMap_append, edges,
    edges, solid, List.nil_append, List.append_nil]

theorem head?_joined (wellFormed : layout.WellFormed) (gap : isSeparator separator = true) :
    (layout.joined separator).head?.any isSeparator = layout.lead := by
  obtain ⟨lead, words, trail⟩ := layout
  have sameEdges := wellFormed.sameEdges
  cases lead with
  | true =>
      have behind : words ++ edge trail ≠ [] := by
        intro empty
        obtain ⟨rfl, noEdge⟩ := List.append_eq_nil_iff.mp empty
        obtain rfl : true = trail := sameEdges rfl
        simp at noEdge
      have opened := Text.joinWith_nil_cons separator behind
      simp only [joined, pieces, edge_true, List.cons_append, List.nil_append, opened,
        List.head?_cons, Option.any_some, gap]
  | false =>
      cases words with
      | nil =>
          obtain rfl : false = trail := sameEdges rfl
          rfl
      | cons word rest =>
          obtain ⟨nonempty, solid⟩ := wellFormed.areWords word (by simp)
          obtain ⟨char, others, rfl⟩ := List.exists_cons_of_ne_nil nonempty
          simp only [joined, pieces, edge_false, List.cons_append, List.nil_append,
            Text.joinWith_cons_char, List.head?_cons, Option.any_some, (solid char (by simp)).1]

theorem getLast?_joined (wellFormed : layout.WellFormed) (gap : isSeparator separator = true) :
    (layout.joined separator).getLast?.any isSeparator = layout.trail := by
  obtain ⟨lead, words, trail⟩ := layout
  have sameEdges := wellFormed.sameEdges
  cases trail with
  | true =>
      have front : edge lead ++ words ≠ [] := by
        intro empty
        obtain ⟨noEdge, rfl⟩ := List.append_eq_nil_iff.mp empty
        obtain rfl : lead = true := sameEdges rfl
        simp at noEdge
      have closed : Text.joinWith separator (edge lead ++ words ++ [[]]) =
          Text.joinWith separator (edge lead ++ words) ++ [separator] := by
        rw [Text.joinWith_append front (by simp), Text.joinWith_singleton]
      simp only [joined, pieces, edge_true, closed]
      simp [gap]
  | false =>
      rcases List.eq_nil_or_concat words with rfl | ⟨init, word, rfl⟩
      · obtain rfl : lead = false := sameEdges rfl
        rfl
      · obtain ⟨nonempty, solid⟩ := wellFormed.areWords word (by simp)
        have last := Text.getLast?_joinWith_concat separator (edge lead ++ init) nonempty
        have ends := (solid _ (List.getLast_mem nonempty)).1
        rw [List.getLast?_eq_some_getLast nonempty] at last
        simp [joined, pieces, ← List.append_assoc, last, ends]

/-- A layout is the layout of any text that joins it. -/
theorem ofText_joined (wellFormed : layout.WellFormed) (gap : isSeparator separator = true) :
    ofText (layout.joined separator) = layout := by
  have whole : bare (layout.joined separator) = layout.joined separator := by
    apply bare_eq_self
    intro char member
    rcases mem_joined wellFormed member with rfl | ⟨-, other⟩
    · exact not_parenthesis_of_gap gap
    · exact other
  rw [ofText, whole]
  simp only [wordsBy_joined wellFormed gap, head?_joined wellFormed gap,
    getLast?_joined wellFormed gap]

end Layout

end SquareOne.Scramble
