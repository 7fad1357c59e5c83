import SquareOne.Proofs.Puzzle.MoveLaws
import SquareOne.Proofs.Shorthand.Concat

/-! A shorthand behind a scramble. It is resolved under the alignment that the turns of the
expansion lead to, whatever the words were that they came from, and its sequence is laid out behind
that expansion.
-/

namespace SquareOne

namespace Scramble

open Rewrite (letters letterTurns)
open Shorthand (Block readBlocks catalogue)

/-- A word that can only be the name of a shorthand. -/
structure IsName (word : Text) : Prop where
  isWord : IsWord word
  noComma : ',' ∉ word
  notCompact : isCompact word = false
  noLetter : letterTurns.hasWord word = false

/-- The alignment that the turns of an expansion lead to. -/
def alignmentAfter (expansion : Text) : Alignment :=
  Alignment.square.track (Move.turns (Move.readAll expansion))

theorem IsName.withComma_eq {name : Text} (isName : IsName name) : withComma name = name := by
  rw [withComma, isName.notCompact, if_neg Bool.false_ne_true]

theorem IsName.letters_eq {name : Text} (isName : IsName name) : letters name = [name] := by
  apply Rewrite.Table.unfold_of_none
  rw [← Option.not_isSome_iff_eq_none, ← Rewrite.Table.hasWord_eq_isSome, isName.noLetter]
  exact Bool.false_ne_true

namespace Layout

variable {layout : Layout} {name : Text}

/-- The layout of a text with a slash and a name behind it. -/
def followedBy (layout : Layout) (name : Text) : Layout :=
  ⟨layout.words.isEmpty || layout.lead, layout.words ++ [name], false⟩

theorem ofText_append_name (scramble : Text) (isWord : IsWord name) :
    ofText (scramble ++ '/' :: name) = (ofText scramble).followedBy name := by
  have whole : bare (scramble ++ '/' :: name) = bare scramble ++ '/' :: name := by
    rw [bare_append_gap (by decide), isWord.bare_eq]
  have solid : ∀ char ∈ name, isSeparator char = false := fun char member =>
    (isWord.2 char member).1
  have trail : (name.getLast?.any isSeparator) = false := by
    rw [List.getLast?_eq_some_getLast isWord.1]
    exact solid _ (List.getLast_mem isWord.1)
  rw [ofText, ofText, whole, followedBy]
  generalize bare scramble = front
  rw [Text.wordsBy_append_gap (by decide), Text.wordsBy_of_solid isWord.1 solid,
    List.getLast?_append, List.getLast?_cons_of_ne_nil isWord.1,
    List.getLast?_eq_some_getLast isWord.1, Option.some_or]
  rw [List.getLast?_eq_some_getLast isWord.1] at trail
  rw [trail]
  cases front with
  | nil => rfl
  | cons char rest =>
      -- Without a word all of the front is separators, its first character among them.
      have led : (Text.wordsBy isSeparator (char :: rest)).isEmpty = true →
          isSeparator char = true := by
        intro empty
        exact Text.wordsBy_eq_nil_iff.mp (List.isEmpty_iff.mp empty) char List.mem_cons_self
      cases empty : (Text.wordsBy isSeparator (char :: rest)).isEmpty with
      | false => rfl
      | true => simp [led empty]

theorem followedBy_wellFormed (wellFormed : layout.WellFormed) (isWord : IsWord name) :
    (layout.followedBy name).WellFormed where
  areWords := by
    intro word member
    rcases List.mem_append.mp member with inWords | same
    · exact wellFormed.areWords word inWords
    · rwa [List.mem_singleton.mp same]
  sameEdges := fun empty => absurd empty (by simp [followedBy])

theorem numbered_lettered_followedBy (isName : IsName name) :
    (layout.followedBy name).numbered.lettered.words =
      layout.numbered.lettered.words ++ [name] := by
  simp [followedBy, numbered, lettered, isName.withComma_eq, isName.letters_eq]

theorem expanded_followedBy (wellFormed : layout.WellFormed) (isName : IsName name)
    {blocks : List Block} (short : ∀ word ∈ layout.words, isOverlong word = false)
    (read : readBlocks .square layout.numbered.lettered.words = .ok blocks) :
    (layout.followedBy name).expanded =
      (Block.ofWord (Alignment.square.track (blocks.flatMap Block.turns)) name).map fun block =>
        Block.laidOut (layout.words.isEmpty || layout.lead) (blocks ++ [block]) false := by
  have nameShort : isOverlong name = false := by simp [isOverlong, isName.notCompact]
  have allShort : ∀ word ∈ (layout.followedBy name).words, isOverlong word = false := by
    intro word member
    rcases List.mem_append.mp member with inWords | same
    · exact short word inWords
    · rwa [List.mem_singleton.mp same]
  rw [expanded_of_short (followedBy_wellFormed wellFormed isName.isWord) allShort,
    numbered_lettered_followedBy isName, Shorthand.readBlocks_concat read]
  cases Block.ofWord (Alignment.square.track (blocks.flatMap Block.turns)) name <;> rfl

theorem turns_readAll_joined (wellFormed : layout.WellFormed) :
    Move.turns (Move.readAll (layout.joined '/')) = layout.words.filterMap Turn.read? := by
  have ofEdge : ∀ present, (edge present).flatMap (fun piece => Move.turns (Move.readAll piece)) =
      [] := by
    intro present
    cases present <;> rfl
  have ofWords : layout.words.flatMap (fun word => Move.turns (Move.readAll word)) =
      layout.words.filterMap Turn.read? := by
    rw [← Shorthand.turns_readAll_words wellFormed.areWords, Move.readAll_joinWith_space]
    simp [Move.turns, List.filterMap_flatMap]
  rw [joined, Move.readAll_joinWith_slash, Move.turns_intercalate_swap, List.flatMap_map, pieces,
    List.flatMap_append, List.flatMap_append, ofEdge, ofEdge, ofWords, List.nil_append,
    List.append_nil]

theorem joined_edge_behind {front words : List Text} (frontSome : front ≠ [])
    (wordsSome : words ≠ []) :
    Text.joinWith '/' (front ++ words ++ edge true) =
      Text.joinWith '/' front ++ '/' :: Text.joinWith '/' words ++ ['/'] := by
  rw [Text.joinWith_append (by simp [frontSome]) (by simp),
    Text.joinWith_append frontSome wordsSome, edge_true, Text.joinWith_singleton]

theorem laidOut_concat_pieces (lead : Bool) (blocks : List Block) (words : List Text) :
    (Block.laidOut lead (blocks ++ [.sequence words]) false).pieces =
      edge (lead || Block.opens (blocks ++ [.sequence words])) ++ Block.spread false blocks ++
        (if Block.closes false blocks then [Block.nullTurn] else []) ++ words ++ edge true := by
  rw [Block.laidOut, pieces, Block.spread_concat, Block.closes_concat]
  simp only [Bool.false_or, List.append_assoc]

theorem spread_ne_nil {block : Block} {rest : List Block}
    (ofPairs : ∀ other ∈ block :: rest, other.OfPairs) (present : Bool) :
    edge present ++ Block.spread false (block :: rest) ≠ [] := by
  have nonempty := (ofPairs block List.mem_cons_self).1
  intro empty
  cases block with
  | pair word => exact absurd (List.append_eq_nil_iff.mp empty).2 (List.cons_ne_nil word _)
  | sequence words =>
      have spread := (List.append_eq_nil_iff.mp empty).2
      exact nonempty (List.append_eq_nil_iff.mp spread).1

theorem suffix_joined {front words : List Text} (frontSome : front ≠ []) (wordsSome : words ≠ []) :
    '/' :: Text.joinWith '/' words ++ ['/'] <:+
      Text.joinWith '/' (front ++ words ++ edge true) := by
  rw [joined_edge_behind frontSome wordsSome, List.append_assoc]
  exact List.suffix_append _ _

/-- A slash at the end of what stands before a sequence is the one that the sequence starts with,
unless it belongs to a sequence itself. -/
theorem exists_gap {front words : List Text} (frontSome : front ≠ []) (wordsSome : words ≠ [])
    (trail closed : Bool) :
    ∃ gap, (gap = [] ∨ gap = ['/'] ∨ gap = Block.nullTurn ++ ['/']) ∧
      Text.joinWith '/'
          (front ++ (if closed then [Block.nullTurn] else []) ++ words ++ edge true) =
        Text.joinWith '/' (front ++ edge (trail || closed)) ++ gap ++ Text.joinWith '/' words ++
          ['/'] := by
  rw [joined_edge_behind (by simp [frontSome]) wordsSome]
  cases closed with
  | false =>
      rw [Bool.or_false, if_neg Bool.false_ne_true, List.append_nil]
      cases trail with
      | false => exact ⟨['/'], by simp, by simp⟩
      | true =>
          rw [edge_true, Text.joinWith_append frontSome (by simp)]
          exact ⟨[], by simp, by simp⟩
  | true =>
      rw [Bool.or_true, if_pos rfl, edge_true, Text.joinWith_append frontSome (by simp),
        Text.joinWith_append frontSome (by simp)]
      exact ⟨Block.nullTurn ++ ['/'], by simp, by simp⟩

/-- The pairs of a sequence are laid out behind those of the blocks before it. -/
theorem joined_laidOut_concat {blocks : List Block} (ofPairs : ∀ block ∈ blocks, block.OfPairs)
    {lead trail : Bool} (sameEdges : blocks = [] → lead = trail) {words : List Text}
    (wordsSome : words ≠ []) :
    let before := (Block.laidOut lead blocks trail).joined '/'
    let behind :=
      (Block.laidOut (blocks.isEmpty || lead) (blocks ++ [.sequence words]) false).joined '/'
    ∃ gap, (gap = [] ∨ gap = ['/'] ∨ gap = Block.nullTurn ++ ['/']) ∧
      behind = before ++ gap ++ Text.joinWith '/' words ++ ['/'] ∧
      '/' :: Text.joinWith '/' words ++ ['/'] <:+ behind := by
  intro before behind
  have laid : behind = Text.joinWith '/' _ := congrArg (Text.joinWith '/')
    (laidOut_concat_pieces (blocks.isEmpty || lead) blocks words)
  cases blocks with
  | nil =>
      obtain rfl := sameEdges rfl
      have single : behind = '/' :: Text.joinWith '/' words ++ ['/'] :=
        laid.trans (joined_edge_behind (List.cons_ne_nil [] []) wordsSome)
      cases lead with
      | false => exact ⟨['/'], by simp, single, single ▸ List.suffix_rfl⟩
      | true => exact ⟨[], by simp, single, single ▸ List.suffix_rfl⟩
  | cons block rest =>
      have frontSome := spread_ne_nil ofPairs (lead || Block.opens (block :: rest))
      obtain ⟨gap, isGap, gapBehind⟩ :=
        exists_gap frontSome wordsSome trail (Block.closes false (block :: rest))
      have ends := suffix_joined (List.append_ne_nil_of_left_ne_nil frontSome
        (if Block.closes false (block :: rest) then [Block.nullTurn] else [])) wordsSome
      exact ⟨gap, isGap, laid.trans gapBehind, laid ▸ ends⟩

end Layout

theorem letterWords_notCompact : ∀ entry ∈ Rewrite.letterWords,
    isCompact entry.1.toList = false := by
  decide +kernel

theorem isCompact_of_letter {word : Text} (letter : (letterTurns.wordsFor? word).isSome) :
    isCompact word = false := by
  obtain ⟨words, found⟩ := Option.isSome_iff_exists.mp letter
  obtain ⟨entry, member, rfl, -⟩ := Rewrite.mem_letterWords_of_some found
  exact letterWords_notCompact entry member

/-- The pairs of a sequence of letter turns. -/
def pairsOf (fragment : Text) : List Text :=
  (fragment.wordsBy isSeparator).flatMap letters

theorem ofText_fragment {name fragment : Text} {alignment : Alignment}
    (found : catalogue.lookup name alignment = .ok fragment) :
    Layout.ofText fragment = ⟨true, fragment.wordsBy isSeparator, true⟩ := by
  obtain ⟨shape, -, areLetters⟩ := Shorthand.lookup_shape found
  have whole : bare fragment = fragment := by
    apply bare_eq_self
    intro char member
    rw [shape, Block.text, List.mem_append, List.mem_cons, List.mem_singleton] at member
    rcases member with (rfl | inWords) | rfl
    · decide
    · rcases Text.mem_joinWith inWords with rfl | ⟨word, wordMember, inWord⟩
      · decide
      · exact ((isWord_of_letter (areLetters word wordMember)).2 char inWord).2
    · decide
  have led : fragment.head?.any isSeparator = true := by
    rw [shape]
    rfl
  have trailed : fragment.getLast?.any isSeparator = true := by
    rw [shape, Block.text, List.getLast?_concat]
    rfl
  rw [Layout.ofText, whole, led, trailed]

theorem expand_fragment {name fragment : Text} {alignment : Alignment}
    (found : catalogue.lookup name alignment = .ok fragment) :
    expand fragment = .ok ('/' :: Text.joinWith '/' (pairsOf fragment) ++ ['/']) := by
  obtain ⟨-, nonempty, areLetters⟩ := Shorthand.lookup_shape found
  have layout := ofText_fragment found
  have wellFormed := Layout.ofText_wellFormed fragment
  rw [layout] at wellFormed
  have short : ∀ word ∈ fragment.wordsBy isSeparator, isOverlong word = false := by
    intro word member
    rw [isOverlong, isCompact_of_letter (areLetters word member), Bool.false_and]
  have numbered : (fragment.wordsBy isSeparator).map withComma = fragment.wordsBy isSeparator := by
    refine (List.map_congr_left fun word member => ?_).trans (List.map_id _)
    rw [withComma, isCompact_of_letter (areLetters word member), if_neg Bool.false_ne_true, id]
  have commas : ∀ word ∈ pairsOf fragment, ',' ∈ word := by
    intro part member
    obtain ⟨word, wordMember, inWord⟩ := List.mem_flatMap.mp member
    exact (isPair_of_mem_letters (areLetters word wordMember) inWord).2
  have expanded : (Layout.ofText fragment).expanded = .ok ⟨true, pairsOf fragment, true⟩ := by
    have read := Shorthand.readBlocks_of_commas commas .square
    rw [layout, Layout.expanded_of_short wellFormed short, Layout.lettered, Layout.numbered,
      numbered]
    exact (congrArg (Except.map _) read).trans
      (congrArg Except.ok (Block.laidOut_pairs ⟨true, pairsOf fragment, true⟩))
  rw [expand_eq_expanded, expanded]
  exact congrArg Except.ok
    (Layout.joined_edge_behind (List.cons_ne_nil [] []) (flatMap_letters_ne_nil nonempty))

theorem exists_blocks_of_expand {scramble expansion : Text}
    (expanded : expand scramble = .ok expansion) :
    ∃ blocks : List Block,
      readBlocks .square (Layout.ofText scramble).numbered.lettered.words = .ok blocks ∧
      (∀ word ∈ (Layout.ofText scramble).words, isOverlong word = false) ∧
      expansion = (Block.laidOut (Layout.ofText scramble).lead blocks
        (Layout.ofText scramble).trail).joined '/' := by
  have wellFormed := Layout.ofText_wellFormed scramble
  rw [expand_eq_expanded] at expanded
  cases result : (Layout.ofText scramble).expanded with
  | error fault =>
      rw [result] at expanded
      cases expanded
  | ok layout =>
      rw [result] at expanded
      cases expanded
      obtain ⟨blocks, read, rfl⟩ := Layout.expanded_eq_ok result
      refine ⟨blocks, read, (Layout.overlong?_joined_eq_none wellFormed).mp ?_, rfl⟩
      cases long : overlong? ((Layout.ofText scramble).joined ' ') with
      | none => rfl
      | some found =>
          rw [Layout.expanded, long] at result
          cases result

theorem readBlocks_isEmpty {layout : Layout} {blocks : List Block}
    (read : readBlocks .square layout.numbered.lettered.words = .ok blocks) :
    blocks.isEmpty = layout.words.isEmpty := by
  cases words : layout.words with
  | nil =>
      rw [Layout.lettered, Layout.numbered, words] at read
      cases read
      rfl
  | cons word rest =>
      have someWords : layout.numbered.lettered.words ≠ [] := by
        rw [Layout.lettered, Layout.numbered, words]
        exact flatMap_letters_ne_nil (by simp)
      obtain ⟨first, others, cut⟩ := List.exists_cons_of_ne_nil someWords
      rw [cut] at read
      obtain ⟨block, behind, rfl, -, -⟩ := Shorthand.readBlocks_cons read
      rfl

theorem alignmentAfter_laidOut {blocks : List Block} (ofPairs : ∀ block ∈ blocks, block.OfPairs)
    {lead trail : Bool} (sameEdges : blocks = [] → lead = trail) :
    alignmentAfter ((Block.laidOut lead blocks trail).joined '/') =
      Alignment.square.track (blocks.flatMap Block.turns) := by
  have canonical := Layout.laidOut_isCanonical ofPairs sameEdges
  rw [alignmentAfter, Layout.turns_readAll_joined canonical.wellFormed]
  exact Block.track_spread false blocks .square

theorem expand_append_name {scramble expansion name : Text}
    (expanded : expand scramble = .ok expansion) (isName : IsName name) :
    match catalogue.lookup name (alignmentAfter expansion) with
    | .error fault => expand (scramble ++ '/' :: name) = .error fault
    | .ok fragment => ∃ result gap, expand (scramble ++ '/' :: name) = .ok result ∧
        (gap = [] ∨ gap = ['/'] ∨ gap = Block.nullTurn ++ ['/']) ∧
        result = expansion ++ gap ++ Text.joinWith '/' (pairsOf fragment) ++ ['/'] ∧
        '/' :: Text.joinWith '/' (pairsOf fragment) ++ ['/'] <:+ result := by
  obtain ⟨blocks, read, short, rfl⟩ := exists_blocks_of_expand expanded
  have wellFormed := Layout.ofText_wellFormed scramble
  have settled := Layout.lettered_wellFormed (Layout.numbered_wellFormed wellFormed)
  have ofPairs := Shorthand.readBlocks_ofPairs settled.areWords read
  have sameEdges : blocks = [] →
      (Layout.ofText scramble).lead = (Layout.ofText scramble).trail := by
    intro noBlocks
    have empty := readBlocks_isEmpty read
    rw [noBlocks] at empty
    exact wellFormed.sameEdges (List.isEmpty_iff.mp empty.symm)
  have followed := Layout.expanded_followedBy wellFormed isName short read
  have noComma : ¬name.contains ',' = true := by simpa using isName.noComma
  rw [Block.ofWord, if_neg noComma, ← readBlocks_isEmpty read,
    ← alignmentAfter_laidOut ofPairs sameEdges] at followed
  rw [expand_eq_expanded, Layout.ofText_append_name scramble isName.isWord, followed]
  cases found : catalogue.lookup name (alignmentAfter ((Block.laidOut (Layout.ofText scramble).lead
      blocks (Layout.ofText scramble).trail).joined '/')) with
  | error fault => rfl
  | ok fragment =>
      have nonempty := flatMap_letters_ne_nil (Shorthand.lookup_shape found).2.1
      obtain ⟨gap, isGap, laidBehind, ends⟩ :=
        Layout.joined_laidOut_concat ofPairs sameEdges nonempty
      exact ⟨_, gap, rfl, isGap, laidBehind, ends⟩

/-- A shorthand behind a scramble is looked up under the alignment that the turns of the expansion
lead to. It is refused where the look-up is, with that alignment; otherwise its pairs follow the
expansion, with a slash between the two or, behind another sequence, a turn by nothing. So scrambles
whose expansions lead to the same alignment have the same sequence follow them. -/
theorem expand_shorthand_behind {scramble expansion name : Text}
    (expanded : expand scramble = .ok expansion) (isName : IsName name) :
    (match catalogue.lookup name (alignmentAfter expansion) with
      | .error fault =>
          fault = .unknownShorthand name (alignmentAfter expansion) ∧
            expand (scramble ++ '/' :: name) = .error fault
      | .ok fragment => ∃ body gap result,
          expand fragment = .ok ('/' :: body ++ ['/']) ∧
          expand (scramble ++ '/' :: name) = .ok result ∧
          (gap = [] ∨ gap = ['/'] ∨ gap = ['0', ',', '0', '/']) ∧
          result = expansion ++ gap ++ body ++ ['/'] ∧ '/' :: body ++ ['/'] <:+ result) ∧
    ∀ other otherExpansion, expand other = .ok otherExpansion →
      alignmentAfter otherExpansion = alignmentAfter expansion →
      (∃ fault, expand (scramble ++ '/' :: name) = .error fault ∧
        expand (other ++ '/' :: name) = .error fault) ∨
      ∃ fragment body result otherResult,
        catalogue.lookup name (alignmentAfter expansion) = .ok fragment ∧
        expand fragment = .ok ('/' :: body ++ ['/']) ∧
        expand (scramble ++ '/' :: name) = .ok result ∧ '/' :: body ++ ['/'] <:+ result ∧
        expand (other ++ '/' :: name) = .ok otherResult ∧ '/' :: body ++ ['/'] <:+ otherResult := by
  have behind := expand_append_name expanded isName
  constructor
  · cases found : catalogue.lookup name (alignmentAfter expansion) with
    | error fault =>
        rw [found] at behind
        exact ⟨Shorthand.lookup_eq_error found, behind⟩
    | ok fragment =>
        rw [found] at behind
        obtain ⟨result, gap, made, isGap, laidBehind, ends⟩ := behind
        exact ⟨_, gap, result, expand_fragment found, made, isGap, laidBehind, ends⟩
  · intro other otherExpansion otherExpanded sameAlignment
    have otherBehind := expand_append_name otherExpanded isName
    rw [sameAlignment] at otherBehind
    cases found : catalogue.lookup name (alignmentAfter expansion) with
    | error fault =>
        rw [found] at behind otherBehind
        exact .inl ⟨fault, behind, otherBehind⟩
    | ok fragment =>
        rw [found] at behind otherBehind
        obtain ⟨result, -, made, -, -, ends⟩ := behind
        obtain ⟨otherResult, -, otherMade, -, -, otherEnds⟩ := otherBehind
        exact .inr ⟨fragment, _, result, otherResult, rfl, expand_fragment found, made, ends,
          otherMade, otherEnds⟩

theorem expand_shorthand_behind_turn :
    expand "1,0".toList = .ok "1,0".toList ∧ IsName "bpj".toList ∧
      ∃ result, expand "1,0/bpj".toList = .ok result ∧
        "/-1,2/-2,-2/3,0/".toList <:+ result := by
  have expanded : expand "1,0".toList = .ok "1,0".toList := expand_of_isCanonical (by decide)
  have isName : IsName "bpj".toList := ⟨by decide, by decide, by decide, by decide +kernel⟩
  have behind := (expand_shorthand_behind expanded isName).1
  have found : catalogue.lookup "bpj".toList (alignmentAfter "1,0".toList) =
      .ok "/d m' U/".toList := ok_of_toOption (by decide +kernel)
  have pairs : '/' :: Text.joinWith '/' (pairsOf "/d m' U/".toList) ++ ['/'] =
      "/-1,2/-2,-2/3,0/".toList := by decide +kernel
  rw [found] at behind
  obtain ⟨body, gap, result, sequence, made, -, -, ends⟩ := behind
  rw [expand_fragment found, pairs] at sequence
  rw [← Except.ok.inj sequence] at ends
  exact ⟨expanded, isName, result, made, ends⟩

end Scramble

end SquareOne
