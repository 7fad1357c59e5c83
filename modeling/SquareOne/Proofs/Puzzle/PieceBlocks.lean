import SquareOne.Proofs.Puzzle.PieceListing

/-! The slots of any layer cut into blocks, each of which is listed as one piece. An edge is a block
of one slot, a corner one of two, and the second slot of a corner is not looked at. A corner in the
last slot is half a block, and counts as a whole one.
-/

namespace SquareOne

/-- A number that is no code point stands for the character of code zero. -/
theorem Text.toNat_ofNat_of_pos {code : Nat} (named : 0 < (Char.ofNat code).toNat) :
    (Char.ofNat code).toNat = code := by
  by_cases valid : code.isValidChar
  · have same : Char.ofNat code = Char.ofNatAux code valid := dif_pos valid
    exact congrArg Char.toNat same
  · have zero : Char.ofNat code = '\x00' := dif_neg valid
    rw [zero] at named
    exact absurd named (by decide)

namespace Piece

/-- The symbols of the corners in either case. -/
def cornerDigits : Text :=
  "13579bdfBDF".toList

theorem kindOf_eq_corner_iff {symbol : Text} :
    kindOf symbol = .corner ↔ ∃ corner ∈ cornerSymbols, symbol = [corner] := by
  unfold kindOf
  split
  · simp
  · rename_i notSingle
    refine ⟨fun absurdity => (nomatch absurdity), ?_⟩
    rintro ⟨corner, -, rfl⟩
    exact absurd rfl (notSingle corner)

/-- The capitals whose lower-case form is the symbol of a corner are all ASCII letters. -/
theorem lt_of_lower_corner :
    ∀ run ∈ Text.capitalRuns, ∀ corner ∈ cornerSymbols,
      run.contains ((corner.toNat : Int) - run.offset).toNat = true →
        ((corner.toNat : Int) - run.offset).toNat < 0x80 := by
  have all : (Text.capitalRuns.all fun run => cornerSymbols.all fun corner =>
      !run.contains ((corner.toNat : Int) - run.offset).toNat ||
        decide (((corner.toNat : Int) - run.offset).toNat < 0x80)) = true := by
    decide +kernel
  intro run runMember corner cornerMember contains
  have checked := List.all_eq_true.mp (List.all_eq_true.mp all run runMember) corner cornerMember
  rw [contains, Bool.not_true, Bool.false_or] at checked
  exact of_decide_eq_true checked

theorem mem_cornerDigits_of_lowerChar {symbol : Char}
    (isCorner : Text.lowerChar symbol ∈ cornerSymbols) : symbol ∈ cornerDigits := by
  by_cases small : symbol.toNat < 0x80
  · have ascii : ∀ code < 0x80, Text.lowerChar (Char.ofNat code) ∈ cornerSymbols →
        Char.ofNat code ∈ cornerDigits := by
      decide +kernel
    have named := ascii symbol.toNat small
    rw [Char.ofNat_toNat] at named
    exact named isCorner
  · have bounds : ∀ corner ∈ cornerSymbols, 0 < corner.toNat ∧ corner.toNat < 0x80 :=
      Text.forall_mem_of_all (by decide)
    obtain ⟨positive, ascii⟩ := bounds _ isCorner
    rcases Text.lowerChar_of_large small with same | ⟨run, runMember, contains, lowered⟩
    · rw [same] at ascii
      exact absurd ascii small
    · have code := Text.toNat_ofNat_of_pos (lowered ▸ positive)
      have origin : (((Text.lowerChar symbol).toNat : Int) - run.offset).toNat = symbol.toNat := by
        rw [← lowered] at code
        omega
      have below := lt_of_lower_corner run runMember _ isCorner
      rw [origin] at below
      exact absurd (below contains) small

theorem kindOf_lower_iff {symbol : Char} :
    kindOf (Text.lower [symbol]) = .corner ↔ symbol ∈ cornerDigits := by
  constructor
  · intro isCorner
    obtain ⟨corner, member, lowered⟩ := kindOf_eq_corner_iff.mp isCorner
    by_cases dotted : symbol = '\u0130'
    · subst dotted
      cases lowered
    · rw [Text.lower_singleton dotted] at lowered
      apply mem_cornerDigits_of_lowerChar
      rw [List.singleton_inj.mp lowered]
      exact member
  · have corners : ∀ symbol ∈ cornerDigits, kindOf (Text.lower [symbol]) = .corner :=
      Text.forall_mem_of_all (by decide)
    exact corners symbol

theorem ne_corner_of_not_mem {symbol : Char} (even : symbol ∉ cornerDigits) :
    ∀ corner ∈ cornerSymbols, Text.lower [symbol] ≠ [corner] :=
  fun corner member lowered =>
    even (kindOf_lower_iff.mp (kindOf_eq_corner_iff.mpr ⟨corner, member, lowered⟩))

/-- What is read as one piece, whatever stands around it. -/
inductive Block where
  | edge (symbol : Char) (even : ∀ corner ∈ cornerSymbols, Text.lower [symbol] ≠ [corner])
  | corner (symbol second : Char) (odd : symbol ∈ cornerDigits)

namespace Block

def slots : Block → Text
  | edge symbol _ => [symbol]
  | corner symbol second _ => [symbol, second]

def symbol : Block → Char
  | edge symbol _ => symbol
  | corner symbol _ _ => symbol

def kind : Block → PieceKind
  | edge _ _ => .edge
  | corner _ _ _ => .corner

/-- The piece that the block is listed as when it starts at `position`. -/
def piece (block : Block) (position : Nat) : Piece :=
  ⟨Text.lower [block.symbol], block.kind, position⟩

theorem span_piece (block : Block) (position : Nat) :
    (block.piece position).span = block.slots.length := by
  cases block <;> rfl

end Block

theorem listFrom_block (block : Block) (position : Nat) (rest : Text) :
    listFrom position (block.slots ++ rest) =
      block.piece position :: listFrom (position + block.slots.length) rest := by
  cases block with
  | edge symbol even =>
      have isEdge : kindOf (Text.lower [symbol]) = .edge := by
        cases kind : kindOf (Text.lower [symbol]) with
        | edge => rfl
        | corner =>
            obtain ⟨corner, member, lowered⟩ := kindOf_eq_corner_iff.mp kind
            exact absurd lowered (even corner member)
      change listFrom position (symbol :: rest) =
        ⟨Text.lower [symbol], .edge, position⟩ :: listFrom (position + 1) rest
      cases rest <;> simp only [listFrom, isEdge]
  | corner symbol second odd =>
      have isCorner := kindOf_lower_iff.mpr odd
      change listFrom position (symbol :: second :: rest) =
        ⟨Text.lower [symbol], .corner, position⟩ :: listFrom (position + 2) rest
      simp only [listFrom, isCorner]

/-- Each block is listed as one piece, which starts behind all the blocks before it. -/
theorem listFrom_blocks (blocks : List Block) (position : Nat) (rest : Text) :
    listFrom position (blocks.flatMap Block.slots ++ rest) =
      blocks.mapIdx (fun index block =>
        block.piece (position + ((blocks.take index).flatMap Block.slots).length)) ++
        listFrom (position + (blocks.flatMap Block.slots).length) rest := by
  induction blocks generalizing position with
  | nil => rfl
  | cons block others ih =>
      rw [List.flatMap_cons, List.append_assoc, listFrom_block, ih, List.mapIdx_cons]
      simp only [List.take_zero, List.flatMap_nil, List.length_nil, List.take_succ_cons,
        List.flatMap_cons, List.length_append, Nat.add_assoc, Nat.add_zero, List.cons_append]

theorem spans_listFrom_blocks (blocks : List Block) (position : Nat) (rest : Text) :
    spans (listFrom position (blocks.flatMap Block.slots ++ rest)) =
      (blocks.flatMap Block.slots).length +
        spans (listFrom (position + (blocks.flatMap Block.slots).length) rest) := by
  induction blocks generalizing position with
  | nil => simp
  | cons block others ih =>
      rw [List.flatMap_cons, List.append_assoc, listFrom_block, spans_cons, ih,
        Block.span_piece, List.length_append, Nat.add_assoc, Nat.add_assoc]

/-- Any slots are blocks, and perhaps half a corner behind them. -/
theorem exists_blocks (slots : Text) :
    ∃ (blocks : List Block) (rest : Text), slots = blocks.flatMap Block.slots ++ rest ∧
      (rest = [] ∨ ∃ symbol ∈ cornerDigits, rest = [symbol]) := by
  match slots with
  | [] => exact ⟨[], [], rfl, .inl rfl⟩
  | [last] =>
      by_cases odd : last ∈ cornerDigits
      · exact ⟨[], [last], rfl, .inr ⟨last, odd, rfl⟩⟩
      · exact ⟨[.edge last (ne_corner_of_not_mem odd)], [], rfl, .inl rfl⟩
  | first :: second :: others =>
      by_cases odd : first ∈ cornerDigits
      · obtain ⟨blocks, rest, whole, half⟩ := exists_blocks others
        exact ⟨.corner first second odd :: blocks, rest, by rw [whole]; rfl, half⟩
      · obtain ⟨blocks, rest, whole, half⟩ := exists_blocks (second :: others)
        exact ⟨.edge first (ne_corner_of_not_mem odd) :: blocks, rest, by rw [whole]; rfl, half⟩

theorem position_head?_listFrom (position : Nat) (slots : Text) :
    ∀ piece ∈ (listFrom position slots).head?, piece.position = position := by
  fun_cases listFrom position slots <;> simp

/-- Every piece that is listed starts behind the one before it. -/
theorem isChain_listFrom (position : Nat) (slots : Text) :
    (listFrom position slots).IsChain fun earlier later =>
      later.position = earlier.position + earlier.span := by
  fun_induction listFrom position slots with
  | case1 => exact .nil
  | case2 position last => exact .singleton _
  | case3 position first second rest listed isCorner ih =>
      exact List.isChain_cons.mpr ⟨position_head?_listFrom (position + 2) rest, ih⟩
  | case4 position first second rest listed isEdge ih =>
      exact List.isChain_cons.mpr ⟨position_head?_listFrom (position + 1) (second :: rest), ih⟩

/-- The last of pieces that follow on each other ends where their spans add up to. -/
theorem getLast?_of_isChain {first : Piece} {others : List Piece}
    (chain : (first :: others).IsChain fun earlier later =>
      later.position = earlier.position + earlier.span) :
    ∀ last ∈ (first :: others).getLast?,
      last.position + last.span = first.position + spans (first :: others) := by
  induction others generalizing first with
  | nil => simp [spans]
  | cons next rest ih =>
      obtain ⟨follows, behind⟩ := List.isChain_cons_cons.mp chain
      intro last member
      rw [spans_cons, ← Nat.add_assoc, ← follows]
      exact ih behind last (by simpa using member)

theorem getLast?_piecesOf (slots : Text) :
    ∀ last ∈ (piecesOf slots).getLast?, last.position + last.span = 1 + spans (piecesOf slots) := by
  have chain : (piecesOf slots).IsChain _ := isChain_listFrom 1 slots
  have starts : ∀ piece ∈ (piecesOf slots).head?, piece.position = 1 :=
    position_head?_listFrom 1 slots
  cases listed : piecesOf slots with
  | nil => exact fun last member => nomatch member
  | cons first others =>
      rw [listed] at chain starts
      intro last member
      rw [getLast?_of_isChain chain last member, starts first rfl]

theorem spans_piecesOf_blocks (blocks : List Block) :
    spans (piecesOf (blocks.flatMap Block.slots)) = (blocks.flatMap Block.slots).length := by
  have whole := spans_listFrom_blocks blocks 1 []
  rw [List.append_nil] at whole
  exact whole

/-- Half a corner behind blocks is listed last, in the last slot, and counts for two. -/
theorem piecesOf_half (blocks : List Block) {symbol : Char} (odd : symbol ∈ cornerDigits) :
    spans (piecesOf (blocks.flatMap Block.slots ++ [symbol])) =
        (blocks.flatMap Block.slots ++ [symbol]).length + 1 ∧
      ∃ last ∈ (piecesOf (blocks.flatMap Block.slots ++ [symbol])).getLast?,
        last.kind = .corner ∧
          last.position = (blocks.flatMap Block.slots ++ [symbol]).length := by
  have half : ∀ position, listFrom position [symbol] =
      [⟨Text.lower [symbol], .corner, position⟩] := fun position => by
    rw [listFrom, kindOf_lower_iff.mpr odd]
  rw [piecesOf, spans_listFrom_blocks, listFrom_blocks, half, List.getLast?_concat,
    List.length_append]
  exact ⟨rfl, _, rfl, rfl, Nat.add_comm 1 _⟩

/-- A corner that is listed in the last slot counts a second slot that is not there. -/
theorem spans_of_last_corner {slots : Text} {last : Piece}
    (member : last ∈ (piecesOf slots).getLast?) (isCorner : last.kind = .corner)
    (inLast : last.position = slots.length) : spans (piecesOf slots) = slots.length + 1 := by
  have ends := getLast?_piecesOf slots last member
  rw [inLast, span, isCorner, PieceKind.span] at ends
  omega

/-- Blocks are listed one by one, however many there are. In the listing of any slots each piece
starts where the one before it ends. The pieces fill just these slots, or one slot more when the
last slot holds a corner: these are the slots that are blocks with half a corner behind them. -/
theorem piecesOf_blocks :
    (∀ blocks : List Block,
      piecesOf (blocks.flatMap Block.slots) =
        blocks.mapIdx (fun index block =>
          ⟨Text.lower [block.symbol], block.kind,
            1 + ((blocks.take index).flatMap Block.slots).length⟩) ∧
      spans (piecesOf (blocks.flatMap Block.slots)) = (blocks.flatMap Block.slots).length) ∧
    ∀ slots : Text,
      (piecesOf slots).IsChain (fun earlier later =>
        later.position = earlier.position + earlier.span) ∧
      (spans (piecesOf slots) = slots.length ∨ spans (piecesOf slots) = slots.length + 1) ∧
      (spans (piecesOf slots) = slots.length + 1 ↔
        ∃ last ∈ (piecesOf slots).getLast?, last.kind = .corner ∧ last.position = slots.length) ∧
      (spans (piecesOf slots) = slots.length + 1 ↔
        ∃ (blocks : List Block) (symbol : Char), symbol ∈ cornerDigits ∧
          slots = blocks.flatMap Block.slots ++ [symbol]) := by
  constructor
  · intro blocks
    have listed := listFrom_blocks blocks 1 []
    rw [List.append_nil, listFrom, List.append_nil] at listed
    exact ⟨listed, spans_piecesOf_blocks blocks⟩
  · intro slots
    have halved : spans (piecesOf slots) = slots.length + 1 →
        ∃ (blocks : List Block) (symbol : Char), symbol ∈ cornerDigits ∧
          slots = blocks.flatMap Block.slots ++ [symbol] := by
      intro overfull
      obtain ⟨blocks, rest, rfl, rfl | ⟨symbol, odd, rfl⟩⟩ := exists_blocks slots
      · rw [List.append_nil, spans_piecesOf_blocks] at overfull
        exact absurd overfull.symm (Nat.succ_ne_self _)
      · exact ⟨blocks, symbol, odd, rfl⟩
    refine ⟨isChain_listFrom 1 slots, ?_, ⟨?_, ?_⟩, ⟨halved, ?_⟩⟩
    · obtain ⟨blocks, rest, rfl, rfl | ⟨symbol, odd, rfl⟩⟩ := exists_blocks slots
      · rw [List.append_nil]
        exact .inl (spans_piecesOf_blocks blocks)
      · exact .inr (piecesOf_half blocks odd).1
    · intro overfull
      obtain ⟨blocks, symbol, odd, rfl⟩ := halved overfull
      exact (piecesOf_half blocks odd).2
    · rintro ⟨last, member, isCorner, inLast⟩
      exact spans_of_last_corner member isCorner inLast
    · rintro ⟨blocks, symbol, odd, rfl⟩
      exact (piecesOf_half blocks odd).1

end Piece

end SquareOne
