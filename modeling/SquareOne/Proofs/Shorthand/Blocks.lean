import SquareOne.Proofs.Scramble.Layout
import SquareOne.Shorthand.Expansion

/-! What a scan leaves in the place of each word: the word itself, or the sequence of a shorthand
set between two slashes.

Closing up the slashes and opening them again spreads the blocks out to words with single spaces
between them. The slash of a sequence takes the place of the space next to it, and where two
sequences meet, a turn by nothing stands between their slashes.
-/

namespace SquareOne.Shorthand

open Scramble (Layout)

inductive Block where
  | pair (word : Text)
  /-- The words of the sequence that a shorthand stands for. -/
  | sequence (words : List Text)
deriving DecidableEq, Repr

namespace Block

def isSequence : Block → Bool
  | .pair _ => false
  | .sequence _ => true

/-- What the scan puts in the place of the word. -/
def text : Block → Text
  | .pair word => word
  | .sequence words => '/' :: Text.joinWith ' ' words ++ ['/']

def nullTurn : Text := ['0', ',', '0']

/-- The words of all blocks, with a turn by nothing between two sequences; `behind` says that the
word before was a sequence, too. -/
def spread : Bool → List Block → List Text
  | _, [] => []
  | _, .pair word :: rest => word :: spread false rest
  | behind, .sequence words :: rest =>
      (if behind then [nullTurn] else []) ++ words ++ spread true rest

def opens (blocks : List Block) : Bool :=
  blocks.head?.any isSequence

/-- Whether the last of the blocks is a sequence; without any, whether the word before was one. -/
def closes : Bool → List Block → Bool
  | behind, [] => behind
  | _, block :: rest => closes block.isSequence rest

/-- The layout of all the words, between the edges that stood around the blocks. A sequence at an
end brings an edge of its own. -/
def laidOut (lead : Bool) (blocks : List Block) (trail : Bool) : Layout :=
  ⟨lead || opens blocks, spread false blocks, trail || closes false blocks⟩

def IsPlain (word : Text) : Prop :=
  word ≠ [] ∧ ' ' ∉ word ∧ '/' ∉ word

def WellFormed : Block → Prop
  | .pair word => IsPlain word ∧ ',' ∈ word
  | .sequence words => words ≠ [] ∧ ∀ word ∈ words, IsPlain word

/-- A text in which the slashes do not change how spaces are dropped around it. -/
structure IsSolid (text : Text) : Prop where
  noSlash : '/' ∉ text
  starts : ∃ char rest, text = char :: rest ∧ char ≠ ' '
  ends : text.getLast? ≠ some ' '

theorem IsPlain.isSolid {word : Text} (plain : IsPlain word) : IsSolid word where
  noSlash := plain.2.2
  starts := by
    obtain ⟨char, rest, rfl⟩ := List.exists_cons_of_ne_nil plain.1
    exact ⟨char, rest, rfl, fun same => plain.2.1 (by simp [same])⟩
  ends := by
    intro last
    exact plain.2.1 (List.mem_of_getLast? last)

theorem isSolid_joinWith {words : List Text} (nonempty : words ≠ [])
    (plain : ∀ word ∈ words, IsPlain word) : IsSolid (Text.joinWith ' ' words) where
  noSlash := by
    intro member
    rcases Text.mem_joinWith member with same | ⟨word, wordMember, inWord⟩
    · exact absurd same (by decide)
    · exact (plain word wordMember).2.2 inWord
  starts := by
    obtain ⟨word, rest, rfl⟩ := List.exists_cons_of_ne_nil nonempty
    obtain ⟨char, others, rfl, solid⟩ := (plain word (by simp)).isSolid.starts
    exact ⟨char, _, Text.joinWith_cons_char ' ' char others rest, solid⟩
  ends := by
    obtain ⟨front, word, rfl⟩ := (List.eq_nil_or_concat words).resolve_left nonempty
    rw [List.concat_eq_append] at plain ⊢
    rw [Text.getLast?_joinWith_concat ' ' front (plain word (by simp)).1]
    exact (plain word (by simp)).isSolid.ends

theorem closeUp_cons (char : Char) (rest : Text) :
    closeUp (char :: rest) = pushClosed char (closeUp rest) := rfl

theorem closeUp_slash (rest : Text) :
    closeUp ('/' :: rest) = '/' :: (closeUp rest).dropWhile (· == ' ') := by
  simp [closeUp_cons, pushClosed]

/-- Nothing is dropped inside a solid text, whatever follows. -/
theorem closeUp_append {text : Text} (noSlash : '/' ∉ text) (ends : text.getLast? ≠ some ' ')
    (rest : Text) : closeUp (text ++ rest) = text ++ closeUp rest := by
  induction text with
  | nil => rfl
  | cons char text ih =>
      simp only [List.mem_cons, not_or] at noSlash
      have other : ¬char = '/' := fun same => noSlash.1 same.symm
      have restEnds : text.getLast? ≠ some ' ' := by
        cases text with
        | nil => simp
        | cons next text => rwa [List.getLast?_cons_cons] at ends
      rw [List.cons_append, closeUp_cons, ih noSlash.2 restEnds, pushClosed, if_neg other]
      have kept : (char = ' ' && (text ++ closeUp rest).head? == some '/') = false := by
        cases text with
        | nil => simp at ends; simp [ends]
        | cons next text =>
            have nextOther : ¬next = '/' := fun same => noSlash.2 (by simp [same])
            simp [nextOther]
      rw [kept]
      rfl

theorem separateSwaps_append {text : Text} (noSlash : '/' ∉ text) (rest : Text) :
    separateSwaps (text ++ rest) = text ++ separateSwaps rest := by
  induction text with
  | nil => rfl
  | cons char text ih =>
      simp only [List.mem_cons, not_or] at noSlash
      have other : ¬char = '/' := fun same => noSlash.1 same.symm
      rw [List.cons_append, separateSwaps, ih noSlash.2]
      · rfl
      · intro next same
        exact absurd same other

theorem separateSwaps_slash {char : Char} {rest : Text} (other : char ≠ '/') :
    separateSwaps ('/' :: char :: rest) = '/' :: separateSwaps (char :: rest) := by
  rw [separateSwaps]
  intro next _ same
  exact absurd (List.cons.inj same).1 other

theorem dropSpaces_solid {text rest : Text} (solid : IsSolid text) :
    (text ++ rest).dropWhile (· == ' ') = text ++ rest := by
  obtain ⟨char, others, rfl, other⟩ := solid.starts
  simp [other]

/-- A text that is closed up, with its slashes as spaces. -/
def opened (closed : Text) : Text :=
  (separateSwaps closed).replaceChar '/' [' ']

theorem opened_append {text : Text} (noSlash : '/' ∉ text) (rest : Text) :
    opened (text ++ rest) = text ++ opened rest := by
  rw [opened, separateSwaps_append noSlash, Text.replaceChar_append,
    Text.replaceChar_of_not_mem noSlash]
  rfl

theorem opened_slash {text rest : Text} (solid : IsSolid text) :
    opened ('/' :: (text ++ rest)) = ' ' :: (text ++ opened rest) := by
  rw [← opened_append solid.noSlash]
  obtain ⟨char, others, rfl, -⟩ := solid.starts
  have other : char ≠ '/' := fun same => solid.noSlash (by simp [same])
  rw [List.cons_append, opened, separateSwaps_slash other, Text.replaceChar_cons_self]
  rfl

theorem opened_slashes {text rest : Text} (solid : IsSolid text) :
    opened ('/' :: '/' :: (text ++ rest)) = ' ' :: nullTurn ++ ' ' :: (text ++ opened rest) := by
  have inner := opened_append solid.noSlash rest
  rw [opened] at inner
  rw [opened, separateSwaps, Text.replaceChar_append, inner]
  rfl

/-- The blocks of a scanned text behind its first word or edge. -/
def textBehind (blocks : List Block) (trail : Bool) : Text :=
  (blocks.map text ++ Layout.edge trail).flatMap (' ' :: ·)

/-- The words that the blocks spread out to, behind a word or an edge. -/
def spreadBehind (behind : Bool) (blocks : List Block) (trail : Bool) : Text :=
  (spread behind blocks ++ Layout.edge (trail || closes behind blocks)).flatMap (' ' :: ·)

theorem flatMap_cons_space {words : List Text} (nonempty : words ≠ []) :
    words.flatMap (' ' :: ·) = ' ' :: Text.joinWith ' ' words := by
  obtain ⟨word, rest, rfl⟩ := List.exists_cons_of_ne_nil nonempty
  rw [Text.joinWith_cons, List.flatMap_cons, List.cons_append]

theorem closeUp_sequence {text : Text} (solid : IsSolid text) (rest : Text) :
    closeUp ('/' :: (text ++ '/' :: rest)) =
      '/' :: (text ++ '/' :: (closeUp rest).dropWhile (· == ' ')) := by
  rw [closeUp_slash, closeUp_append solid.noSlash solid.ends, closeUp_slash,
    dropSpaces_solid solid]

section Behind

variable {word : Text} {words : List Text}

theorem textBehind_pair (word : Text) (rest : List Block) (trail : Bool) :
    textBehind (.pair word :: rest) trail = ' ' :: (word ++ textBehind rest trail) := by
  simp [textBehind, text]

theorem textBehind_sequence (words : List Text) (rest : List Block) (trail : Bool) :
    textBehind (.sequence words :: rest) trail =
      ' ' :: '/' :: (Text.joinWith ' ' words ++ '/' :: textBehind rest trail) := by
  simp [textBehind, text]

theorem spreadBehind_pair (word : Text) (behind : Bool) (rest : List Block) (trail : Bool) :
    spreadBehind behind (.pair word :: rest) trail =
      ' ' :: (word ++ spreadBehind false rest trail) := by
  simp [spreadBehind, spread, closes, isSequence]

theorem spreadBehind_sequence (nonempty : words ≠ []) (behind : Bool) (rest : List Block)
    (trail : Bool) :
    spreadBehind behind (.sequence words :: rest) trail =
      (if behind then ' ' :: nullTurn else []) ++
        ' ' :: (Text.joinWith ' ' words ++ spreadBehind true rest trail) := by
  have sequenceWords := flatMap_cons_space nonempty
  cases behind with
  | false => simp [spreadBehind, spread, closes, isSequence, sequenceWords]
  | true => simp [spreadBehind, spread, closes, isSequence, sequenceWords]

theorem closeUp_textBehind_pair (solid : IsSolid word) (rest : List Block) (trail : Bool) :
    closeUp (textBehind (.pair word :: rest) trail) =
      ' ' :: (word ++ closeUp (textBehind rest trail)) := by
  obtain ⟨char, others, rfl, -⟩ := solid.starts
  have other : ¬char = '/' := fun same => solid.noSlash (by simp [same])
  rw [textBehind_pair, closeUp_cons, closeUp_append solid.noSlash solid.ends]
  simp [pushClosed, other]

/-- The space before a sequence is dropped, so that it makes no difference. -/
theorem closeUp_textBehind_sequence (solid : IsSolid (Text.joinWith ' ' words))
    (rest : List Block) (trail : Bool) :
    closeUp (textBehind (.sequence words :: rest) trail) =
      closeUp ('/' :: (Text.joinWith ' ' words ++ '/' :: textBehind rest trail)) := by
  rw [textBehind_sequence, closeUp_cons, closeUp_sequence solid]
  rfl

end Behind

theorem opened_textBehind {blocks : List Block} (wellFormed : ∀ block ∈ blocks, block.WellFormed)
    (trail : Bool) :
    opened (closeUp (textBehind blocks trail)) = spreadBehind false blocks trail ∧
      opened ('/' :: (closeUp (textBehind blocks trail)).dropWhile (· == ' ')) =
        spreadBehind true blocks trail := by
  -- Both go through one induction: a pair leads on behind a word, a sequence behind its last slash.
  induction blocks with
  | nil => cases trail <;> exact ⟨rfl, rfl⟩
  | cons block rest ih =>
      obtain ⟨afterWord, afterSlash⟩ := ih fun next member =>
        wellFormed next (List.mem_cons_of_mem _ member)
      have blockWellFormed := wellFormed block (by simp)
      cases block with
      | pair word =>
          have solid : IsSolid word := IsPlain.isSolid blockWellFormed.1
          constructor
          · have spaced := @opened_append [' '] (by decide)
              (word ++ closeUp (textBehind rest trail))
            rw [closeUp_textBehind_pair solid, spreadBehind_pair, ← afterWord,
              ← opened_append solid.noSlash]
            exact spaced
          · have dropped : (' ' :: (word ++ closeUp (textBehind rest trail))).dropWhile (· == ' ') =
                word ++ closeUp (textBehind rest trail) := dropSpaces_solid solid
            rw [closeUp_textBehind_pair solid, dropped, opened_slash solid, spreadBehind_pair,
              afterWord]
      | sequence words =>
          obtain ⟨nonempty, plain⟩ := blockWellFormed
          have solid := isSolid_joinWith nonempty plain
          rw [closeUp_textBehind_sequence solid, closeUp_sequence solid,
            spreadBehind_sequence nonempty, spreadBehind_sequence nonempty, ← afterSlash]
          constructor
          · exact opened_slash solid
          · have kept : ∀ tail : Text, ('/' :: tail).dropWhile (· == ' ') = '/' :: tail :=
              fun _ => rfl
            rw [kept]
            exact opened_slashes solid

/-- The words of a scanned text are laid out with single spaces between them. -/
theorem openSwaps_blocks {blocks : List Block} (wellFormed : ∀ block ∈ blocks, block.WellFormed)
    (lead trail : Bool) :
    openSwaps (Text.joinWith ' ' (Layout.edge lead ++ blocks.map text ++ Layout.edge trail)) =
      (laidOut lead blocks trail).joined ' ' := by
  have behind := (opened_textBehind wellFormed trail).1
  have fromEdge : ∀ pieces : List Text,
      Text.joinWith ' ' (Layout.edge true ++ pieces) = pieces.flatMap (' ' :: ·) := fun pieces =>
    Text.joinWith_cons ' ' [] pieces
  rw [laidOut, Layout.joined, Layout.pieces]
  cases lead with
  | true =>
      rw [List.append_assoc, fromEdge, Bool.true_or, List.append_assoc, fromEdge]
      exact behind
  | false =>
      cases blocks with
      | nil => cases trail <;> rfl
      | cons block rest =>
          cases block with
          | pair word =>
              have solid : IsSolid word := IsPlain.isSolid (wellFormed _ List.mem_cons_self).1
              have restBehind := (opened_textBehind (fun next member =>
                wellFormed next (List.mem_cons_of_mem _ member)) trail).1
              have joined : Text.joinWith ' ' (Layout.edge false ++
                  (Block.pair word :: rest).map text ++ Layout.edge trail) =
                    word ++ textBehind rest trail := Text.joinWith_cons ' ' word _
              rw [joined, openSwaps, closeUp_append solid.noSlash solid.ends]
              refine (opened_append solid.noSlash _).trans ?_
              rw [restBehind]
              exact (Text.joinWith_cons ' ' word _).symm
          | sequence words =>
              obtain ⟨nonempty, plain⟩ := wellFormed _ List.mem_cons_self
              have joined : Text.joinWith ' ' (Layout.edge false ++
                  (Block.sequence words :: rest).map text ++ Layout.edge trail) =
                    '/' :: (Text.joinWith ' ' words ++ '/' :: textBehind rest trail) := by
                rw [Layout.edge_false, List.nil_append, List.map_cons, List.cons_append,
                  Text.joinWith_cons]
                simp [text, textBehind]
              rw [closeUp_textBehind_sequence (isSolid_joinWith nonempty plain)] at behind
              rw [joined, openSwaps, List.append_assoc]
              exact behind.trans (fromEdge _).symm

end Block

end SquareOne.Shorthand
