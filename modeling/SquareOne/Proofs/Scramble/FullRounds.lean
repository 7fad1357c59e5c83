import SquareOne.Proofs.Puzzle.FullRounds
import SquareOne.Proofs.Scramble.Literal
import SquareOne.Proofs.Scramble.Refusals

/-! Texts whose literal turns differ by full rounds. Expanding them goes on in step: the same words
are refused, every shorthand is met under the same alignment, and the moves differ by full rounds.
-/

namespace SquareOne

/-- Both give values that are related, or both are refused for the same cause. -/
def SameEnd {α β : Type} (related : α → β → Prop) : Except Fault α → Except Fault β → Prop
  | .ok value, .ok other => related value other
  | .error fault, .error other => fault = other
  | _, _ => False

namespace SameEnd

variable {α β γ δ : Type} {related : α → β → Prop} {next : γ → δ → Prop}
  {first : Except Fault α} {second : Except Fault β}

theorem bind {firstNext : α → Except Fault γ} {secondNext : β → Except Fault δ}
    (same : SameEnd related first second)
    (behind : ∀ value other, related value other →
      SameEnd next (firstNext value) (secondNext other)) :
    SameEnd next (first >>= firstNext) (second >>= secondNext) := by
  cases first <;> cases second
  · exact same
  · exact same.elim
  · exact same.elim
  · exact behind _ _ same

theorem cases (same : SameEnd related first second) :
    (∃ fault, first = .error fault ∧ second = .error fault) ∨
      ∃ value other, first = .ok value ∧ second = .ok other ∧ related value other := by
  cases first with
  | error fault =>
      cases second with
      | error other => exact .inl ⟨fault, rfl, congrArg Except.error same.symm⟩
      | ok other => exact same.elim
  | ok value =>
      cases second with
      | error fault => exact same.elim
      | ok other => exact .inr ⟨value, other, rfl, rfl, same⟩

theorem map {change : α → γ} {otherChange : β → δ} (same : SameEnd related first second)
    (kept : ∀ value other, related value other → next (change value) (otherChange other)) :
    SameEnd next (first.map change) (second.map otherChange) := by
  cases first <;> cases second
  · exact same
  · exact same.elim
  · exact same.elim
  · exact kept _ _ same

end SameEnd

namespace Scramble

open Rewrite (letters)
open Shorthand (Block readBlocks catalogue)

/-- The same word, or pairs that name turns which differ by full rounds. -/
inductive WordAlike : Text → Text → Prop
  | same (word : Text) : WordAlike word word
  | turn {first second : Text} {offsets others : Turn} (isPair : IsPair first)
      (otherPair : IsPair second) (read : Turn.read? first = some offsets)
      (otherRead : Turn.read? second = some others) (congruent : offsets.Congruent others) :
      WordAlike first second

abbrev WordsAlike : List Text → List Text → Prop :=
  List.Forall₂ WordAlike

theorem WordsAlike.refl (words : List Text) : WordsAlike words words :=
  List.forall₂_same.mpr fun word _ => .same word

theorem WordAlike.find?_isOverlong {first second : List Text} (alike : WordsAlike first second)
    (start : Nat) :
    ((first.zipIdx start).find? fun (word, _) => isOverlong word) =
      (second.zipIdx start).find? fun (word, _) => isOverlong word := by
  induction alike generalizing start with
  | nil => rfl
  | cons head _ ih =>
      rw [List.zipIdx_cons, List.zipIdx_cons, List.find?_cons, List.find?_cons, ih]
      cases head with
      | same => rfl
      | turn isPair otherPair =>
          simp only [isOverlong_of_comma isPair.2, isOverlong_of_comma otherPair.2]

/-- Numbers and letters are written out alike, for a pair is neither. -/
theorem WordsAlike.written {first second : List Text} (alike : WordsAlike first second) :
    WordsAlike ((first.map withComma).flatMap letters)
      ((second.map withComma).flatMap letters) := by
  induction alike with
  | nil => exact .nil
  | cons head _ ih =>
      rw [List.map_cons, List.map_cons, List.flatMap_cons, List.flatMap_cons]
      cases head with
      | same => exact List.rel_append (WordsAlike.refl _) ih
      | turn isPair otherPair read otherRead congruent =>
          rw [withComma_of_comma isPair.2, withComma_of_comma otherPair.2,
            letters_of_comma isPair.2, letters_of_comma otherPair.2]
          exact .cons (.turn isPair otherPair read otherRead congruent) ih

namespace Layout

structure Alike (first second : Layout) : Prop where
  lead : first.lead = second.lead
  words : WordsAlike first.words second.words
  trail : first.trail = second.trail

variable {first second : Layout}

theorem Alike.pieces (alike : first.Alike second) : WordsAlike first.pieces second.pieces := by
  rw [Layout.pieces, Layout.pieces, alike.lead, alike.trail]
  exact List.rel_append (List.rel_append (WordsAlike.refl _) alike.words) (WordsAlike.refl _)

theorem Alike.overlong?_eq (alike : first.Alike second) (wellFormed : first.WellFormed)
    (otherWellFormed : second.WellFormed) :
    overlong? (first.joined ' ') = overlong? (second.joined ' ') := by
  have pieces := alike.pieces
  by_cases empty : first.pieces = []
  · have otherEmpty : second.pieces = [] := by
      rw [empty] at pieces
      exact List.forall₂_nil_left_iff.mp pieces
    rw [joined, joined, empty, otherEmpty]
  · have otherSome : second.pieces ≠ [] := by
      intro otherEmpty
      rw [otherEmpty] at pieces
      exact empty (List.forall₂_nil_right_iff.mp pieces)
    rw [overlong?, overlong?, splitOn_joined wellFormed (by decide) empty,
      splitOn_joined otherWellFormed (by decide) otherSome]
    exact WordAlike.find?_isOverlong pieces 0

end Layout

end Scramble

namespace Shorthand

open Scramble (WordAlike WordsAlike Layout)

inductive Block.Alike : Block → Block → Prop
  | pair {first second : Text} (alike : WordAlike first second) : Alike (.pair first) (.pair second)
  | sequence (words : List Text) : Alike (.sequence words) (.sequence words)

namespace Block

theorem Alike.track {first second : Block} (alike : first.Alike second) (alignment : Alignment) :
    alignment.track first.turns = alignment.track second.turns := by
  cases alike with
  | sequence words => rfl
  | pair alike =>
      cases alike with
      | same => rfl
      | turn isPair otherPair read otherRead congruent =>
          simp only [turns, words, List.filterMap_cons, read, otherRead, List.filterMap_nil,
            Alignment.track_cons, Alignment.track_nil, alignment.advance_congruent congruent]

theorem ofWord_alike {first second : Text} (alike : WordAlike first second)
    (alignment : Alignment) :
    SameEnd Alike (ofWord alignment first) (ofWord alignment second) := by
  cases alike with
  | same =>
      cases ofWord alignment first with
      | error fault => exact rfl
      | ok block =>
          cases block with
          | pair word => exact .pair (.same word)
          | sequence words => exact .sequence words
  | turn isPair otherPair read otherRead congruent =>
      have comma : first.contains ',' = true := by simpa using isPair.2
      have otherComma : second.contains ',' = true := by simpa using otherPair.2
      rw [ofWord, if_pos comma, ofWord, if_pos otherComma]
      exact .pair (.turn isPair otherPair read otherRead congruent)

end Block

theorem readBlocks_alike {first second : List Text} (alike : WordsAlike first second)
    (alignment : Alignment) :
    SameEnd (List.Forall₂ Block.Alike) (readBlocks alignment first)
      (readBlocks alignment second) := by
  induction alike generalizing alignment with
  | nil => exact List.Forall₂.nil
  | cons head _ ih =>
      rw [readBlocks, readBlocks]
      refine (Block.ofWord_alike head alignment).bind fun block other blockAlike => ?_
      -- The alignment behind the two is the same, and so is the shorthand that is looked up there.
      rw [blockAlike.track]
      exact (ih _).bind fun blocks others blocksAlike => .cons blockAlike blocksAlike

namespace Block

variable {first second : List Block}

theorem spread_alike (alike : List.Forall₂ Alike first second) (behind : Bool) :
    WordsAlike (spread behind first) (spread behind second) := by
  induction alike generalizing behind with
  | nil => cases behind <;> exact .nil
  | cons head _ ih =>
      cases head with
      | pair alike => exact .cons alike (ih false)
      | sequence words =>
          rw [spread, spread]
          exact List.rel_append (WordsAlike.refl _) (ih true)

theorem closes_alike (alike : List.Forall₂ Alike first second) (behind : Bool) :
    closes behind first = closes behind second := by
  induction alike generalizing behind with
  | nil => rfl
  | cons head _ ih =>
      rw [closes, closes, ih]
      cases head <;> rfl

theorem laidOut_alike (alike : List.Forall₂ Alike first second) (lead trail : Bool) :
    (laidOut lead first trail).Alike (laidOut lead second trail) where
  lead := by
    cases alike with
    | nil => rfl
    | cons head rest => cases head <;> rfl
  words := spread_alike alike false
  trail := congrArg (trail || ·) (closes_alike alike false)

end Block

end Shorthand

namespace Scramble

open Shorthand (Block readBlocks_alike)

theorem Layout.Alike.expanded {first second : Layout} (alike : first.Alike second)
    (wellFormed : first.WellFormed) (otherWellFormed : second.WellFormed) :
    SameEnd Layout.Alike first.expanded second.expanded := by
  rw [Layout.expanded, Layout.expanded, alike.overlong?_eq wellFormed otherWellFormed, alike.lead,
    alike.trail]
  cases overlong? (second.joined ' ') with
  | some found => exact rfl
  | none =>
      exact (readBlocks_alike alike.words.written .square).map fun blocks others blocksAlike =>
        Block.laidOut_alike blocksAlike _ _

theorem WordAlike.readAll {first second : Text} (alike : WordAlike first second) :
    List.Forall₂ Move.Congruent (Move.readAll first) (Move.readAll second) := by
  cases alike with
  | same => exact List.forall₂_same.mpr fun move _ => .refl move
  | turn isPair otherPair read otherRead congruent =>
      rw [Move.readAll_of_solid isPair.1.1 isPair.1.no_slash isPair.1.no_blank,
        Move.readAll_of_solid otherPair.1.1 otherPair.1.no_slash otherPair.1.no_blank, read,
        otherRead]
      exact .cons (.turn congruent) .nil

theorem WordsAlike.readAll {first second : List Text} (alike : WordsAlike first second) :
    List.Forall₂ Move.Congruent (Move.readAll (Text.joinWith '/' first))
      (Move.readAll (Text.joinWith '/' second)) := by
  induction alike with
  | nil => exact .nil
  | cons head rest ih =>
      cases rest with
      | nil => simpa using head.readAll
      | cons next others =>
          rw [Text.joinWith_cons_cons, Text.joinWith_cons_cons, Move.readAll_append_slash,
            Move.readAll_append_slash]
          exact List.rel_append head.readAll (.cons .swap ih)

/-- The turn that a piece of text names by two numerals with a comma between them; parentheses do
not count. -/
def NamesTurn (piece : Text) (turn : Turn) : Prop :=
  ∃ top bottom, Numeral.read? top = some turn.top ∧ Numeral.read? bottom = some turn.bottom ∧
    bare piece = top ++ ',' :: bottom

/-- The same text, or names of turns that differ by full rounds. -/
def PieceAlike (first second : Text) : Prop :=
  first = second ∨ ∃ turn other : Turn,
    NamesTurn first turn ∧ NamesTurn second other ∧ turn.Congruent other

/-- Two texts that are the same but for turns that differ by full rounds, each written between
separators or at an end of the text. -/
inductive SameUpToRounds : Text → Text → Prop
  | last {first second : Text} (alike : PieceAlike first second) : SameUpToRounds first second
  | gap {first second rest others : Text} {separator : Char} (alike : PieceAlike first second)
      (isGap : isSeparator separator = true) (behind : SameUpToRounds rest others) :
      SameUpToRounds (first ++ separator :: rest) (second ++ separator :: others)

section Pieces

variable {first second : Text}

theorem NamesTurn.isPair_read {piece : Text} {turn : Turn} (names : NamesTurn piece turn) :
    IsPair (bare piece) ∧ Turn.read? (bare piece) = some turn := by
  obtain ⟨top, bottom, topRead, bottomRead, same⟩ := names
  rw [same]
  exact ⟨isPair_of_numerals (Option.isSome_of_eq_some topRead)
    (Option.isSome_of_eq_some bottomRead), read?_of_numerals topRead bottomRead⟩

theorem IsPair.edges {word : Text} (isPair : IsPair word) :
    word.head?.map isSeparator = some false ∧ word.getLast?.map isSeparator = some false := by
  obtain ⟨nonempty, solid⟩ := isPair.1
  rw [List.head?_eq_some_head nonempty, List.getLast?_eq_some_getLast nonempty]
  exact ⟨congrArg some (solid _ (List.head_mem nonempty)).1,
    congrArg some (solid _ (List.getLast_mem nonempty)).1⟩

theorem PieceAlike.words (alike : PieceAlike first second) :
    WordsAlike ((bare first).wordsBy isSeparator) ((bare second).wordsBy isSeparator) := by
  rcases alike with rfl | ⟨turn, other, names, otherNames, congruent⟩
  · exact WordsAlike.refl _
  · obtain ⟨isPair, read⟩ := names.isPair_read
    obtain ⟨otherPair, otherRead⟩ := otherNames.isPair_read
    rw [Text.wordsBy_of_solid isPair.1.1 fun char member => (isPair.1.2 char member).1,
      Text.wordsBy_of_solid otherPair.1.1 fun char member => (otherPair.1.2 char member).1]
    exact .cons (.turn isPair otherPair read otherRead congruent) .nil

theorem PieceAlike.edges (alike : PieceAlike first second) :
    (bare first).head?.map isSeparator = (bare second).head?.map isSeparator ∧
      (bare first).getLast?.map isSeparator = (bare second).getLast?.map isSeparator := by
  rcases alike with rfl | ⟨turn, other, names, otherNames, -⟩
  · exact ⟨rfl, rfl⟩
  · obtain ⟨head, last⟩ := names.isPair_read.1.edges
    obtain ⟨otherHead, otherLast⟩ := otherNames.isPair_read.1.edges
    exact ⟨head.trans otherHead.symm, last.trans otherLast.symm⟩

theorem SameUpToRounds.words (same : SameUpToRounds first second) :
    WordsAlike ((bare first).wordsBy isSeparator) ((bare second).wordsBy isSeparator) := by
  induction same with
  | last alike => exact alike.words
  | gap alike isGap _ ih =>
      rw [bare_append_gap isGap, bare_append_gap isGap, Text.wordsBy_append_gap isGap,
        Text.wordsBy_append_gap isGap]
      exact List.rel_append alike.words ih

theorem SameUpToRounds.edges (same : SameUpToRounds first second) :
    (bare first).head?.map isSeparator = (bare second).head?.map isSeparator ∧
      (bare first).getLast?.map isSeparator = (bare second).getLast?.map isSeparator := by
  induction same with
  | last alike => exact alike.edges
  | gap alike isGap _ ih =>
      simp only [bare_append_gap isGap, List.head?_append, List.getLast?_append, List.getLast?_cons,
        List.head?_cons, Option.map_or, Option.map_some, ← Option.getD_map isSeparator,
        Option.some_or, alike.edges.1, ih.2, and_self]

/-- The layouts of the two texts differ by full rounds only. -/
theorem SameUpToRounds.ofText (same : SameUpToRounds first second) :
    (Layout.ofText first).Alike (Layout.ofText second) where
  lead := by
    have starts := congrArg (Option.any id) same.edges.1
    rwa [Option.any_map, Option.any_map] at starts
  words := same.words
  trail := by
    have ends := congrArg (Option.any id) same.edges.2
    rwa [Option.any_map, Option.any_map] at ends

theorem SameUpToRounds.expand (same : SameUpToRounds first second) :
    SameEnd (fun expansion other =>
      List.Forall₂ Move.Congruent (Move.readAll expansion) (Move.readAll other))
      (expand first) (expand second) := by
  rw [expand_eq_expanded, expand_eq_expanded]
  exact (same.ofText.expanded (Layout.ofText_wellFormed first)
    (Layout.ofText_wellFormed second)).map fun layout other alike => alike.pieces.readAll

/-- Full rounds in literal turns make no difference to what a text compiles to, forth or back, nor
to what it is refused for. -/
theorem compile_fullRounds (same : SameUpToRounds first second) (start : State) :
    compile first start = compile second start ∧
      compileInverse first start = compileInverse second start := by
  rcases same.expand.cases with
    ⟨fault, refused, otherRefused⟩ | ⟨expansion, other, expanded, otherExpanded, congruent⟩
  · exact ⟨(compile_eq_error.mpr refused).trans (compile_eq_error.mpr otherRefused).symm,
      (compileInverse_eq_error.mpr refused).trans (compileInverse_eq_error.mpr otherRefused).symm⟩
  · rw [compile_of_expand expanded, compile_of_expand otherExpanded,
      compileInverse_of_expand expanded, compileInverse_of_expand otherExpanded,
      start.applyAll_congruent congruent, start.applyAll_inverses_congruent congruent]
    exact ⟨rfl, rfl⟩

theorem compile_fullRounds_shorthand :
    SameUpToRounds "(13,0) bpj".toList "1,-12 bpj".toList ∧
      ∃ state, compile "(13,0) bpj".toList .solved = .ok state ∧
        compile "1,-12 bpj".toList .solved = .ok state := by
  have names : NamesTurn "(13,0)".toList ⟨13, 0⟩ :=
    ⟨"13".toList, "0".toList, by decide +kernel, by decide +kernel, by decide +kernel⟩
  have otherNames : NamesTurn "1,-12".toList ⟨1, -12⟩ :=
    ⟨"1".toList, "-12".toList, by decide +kernel, by decide +kernel, by decide +kernel⟩
  have same : SameUpToRounds ("(13,0)".toList ++ ' ' :: "bpj".toList)
      ("1,-12".toList ++ ' ' :: "bpj".toList) :=
    .gap (.inr ⟨_, _, names, otherNames, by decide, by decide⟩) (by decide) (.last (.inl rfl))
  have words : (Layout.ofText "1,-12 bpj".toList).expanded.toOption =
      some ⟨false, "1,-12/-1,2/-2,-2/3,0".toList.splitOn '/', true⟩ := by
    decide +kernel
  have compiled := compile_of_expand (expand_of_expanded words) .solved
  exact ⟨same, _, (compile_fullRounds same .solved).1.trans compiled, compiled⟩

end Pieces

end Scramble

end SquareOne
