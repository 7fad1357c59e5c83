import Mathlib.Data.List.Perm.Basic
import SquareOne.Proofs.Puzzle.Tiling
import SquareOne.Proofs.Puzzle.WireForm
import SquareOne.Proofs.Scramble.Canonical

/-! What a listing of pieces says about the slots it was read from. A tiled layer is read back piece
by piece. Where a corner is parted at the seam, its half in the first slot is taken for a whole
corner, and the reading is out of step up to the first edge, which is lost.
-/

namespace SquareOne

theorem PieceKind.span_pos (kind : PieceKind) : 0 < kind.span := by
  cases kind <;> decide

namespace Piece

/-- The symbol of the piece, once for each slot that it fills. -/
def cover (piece : Piece) : List Text :=
  List.replicate piece.span piece.symbol

def spans (pieces : List Piece) : Nat :=
  (pieces.map span).sum

theorem spans_cons (piece : Piece) (pieces : List Piece) :
    spans (piece :: pieces) = piece.span + spans pieces :=
  List.sum_cons

theorem length_cover (pieces : List Piece) : (pieces.flatMap cover).length = spans pieces := by
  rw [List.length_flatMap, spans]
  congr 1
  exact List.map_congr_left fun piece _ => List.length_replicate

theorem lower_edge : ∀ symbol ∈ edgeSymbols,
    Text.lower [symbol] = [symbol] ∧ kindOf [symbol] = .edge :=
  Text.forall_mem_of_all (by decide)

theorem lower_corner : ∀ symbol ∈ cornerSymbols,
    Text.lower [symbol] = [symbol] ∧ kindOf [symbol] = .corner :=
  Text.forall_mem_of_all (by decide)

variable {symbol : Char} {slots inner : Text}

theorem listFrom_edge (isEdge : symbol ∈ edgeSymbols) (position : Nat) (rest : Text) :
    listFrom position (symbol :: rest) =
      ⟨[symbol], .edge, position⟩ :: listFrom (position + 1) rest := by
  obtain ⟨lower, kind⟩ := lower_edge symbol isEdge
  cases rest <;> simp only [listFrom, lower, kind]

theorem listFrom_corner (isCorner : symbol ∈ cornerSymbols) (position : Nat) (second : Char)
    (rest : Text) :
    listFrom position (symbol :: second :: rest) =
      ⟨[symbol], .corner, position⟩ :: listFrom (position + 2) rest := by
  obtain ⟨lower, kind⟩ := lower_corner symbol isCorner
  simp only [listFrom, lower, kind]

theorem listFrom_half (isCorner : symbol ∈ cornerSymbols) (position : Nat) :
    listFrom position [symbol] = [⟨[symbol], .corner, position⟩] := by
  obtain ⟨lower, kind⟩ := lower_corner symbol isCorner
  simp only [listFrom, lower, kind]

/-- The kind of a piece that is listed is the one of its symbol, whatever the slots are. -/
theorem kind_of_mem_listFrom {position : Nat} {piece : Piece}
    (member : piece ∈ listFrom position slots) : piece.kind = kindOf piece.symbol := by
  fun_induction listFrom position slots with
  | case1 => cases member
  | case2 position last =>
      obtain rfl := List.mem_singleton.mp member
      rfl
  | case3 position first second rest listed isCorner ih =>
      rcases List.mem_cons.mp member with rfl | behind
      · exact isCorner.symm
      · exact ih behind
  | case4 position first second rest listed isEdge ih =>
      rcases List.mem_cons.mp member with rfl | behind
      · exact isEdge.symm
      · exact ih behind

/-- Tiled slots are covered by the pieces listed for them. -/
theorem cover_listFrom (tiled : Tiled slots) (position : Nat) :
    (listFrom position slots).flatMap cover = slots.map fun symbol => [symbol] := by
  induction tiled generalizing position with
  | nil => rfl
  | edge isEdge _ ih =>
      rw [listFrom_edge isEdge, List.flatMap_cons, ih]
      rfl
  | corner isCorner _ ih =>
      rw [listFrom_corner isCorner, List.flatMap_cons, ih]
      rfl

/-- Between the halves of a parted corner, other corners are all listed with their second halves. -/
theorem cover_listFrom_corners {first last : Char} (tiled : Tiled inner)
    (corners : ∀ symbol ∈ inner, symbol ∈ cornerSymbols) (isCorner : first ∈ cornerSymbols)
    (position : Nat) :
    (listFrom position (first :: (inner ++ [last]))).flatMap cover =
      [first] :: [first] :: inner.map fun symbol => [symbol] := by
  induction tiled generalizing first position with
  | nil =>
      rw [List.nil_append, listFrom_corner isCorner]
      rfl
  | edge isEdge _ _ => exact absurd (corners _ List.mem_cons_self) (not_corner_of_edge _ isEdge)
  | @corner symbol rest isNext _ ih =>
      have behind := ih (fun other member => corners other (by simp [member])) isNext (position + 2)
      rw [List.cons_append, List.cons_append, listFrom_corner isCorner, List.flatMap_cons, behind]
      rfl

theorem spans_listFrom_half (tiled : Tiled slots) (isCorner : symbol ∈ cornerSymbols)
    (position : Nat) : spans (listFrom position (slots ++ [symbol])) = slots.length + 2 := by
  induction tiled generalizing position with
  | nil =>
      rw [List.nil_append, listFrom_half isCorner]
      rfl
  | edge isEdge _ ih =>
      rw [List.cons_append, listFrom_edge isEdge, spans_cons, ih, List.length_cons]
      exact Nat.add_comm 1 _
  | corner isNext _ ih =>
      rw [List.cons_append, List.cons_append, listFrom_corner isNext, spans_cons, ih,
        List.length_cons, List.length_cons]
      exact Nat.add_comm 2 _

/-- With an edge between the halves of a parted corner, one slot more is listed than there is: the
last half is taken for a whole corner again. -/
theorem spans_listFrom_parted {first last : Char} (tiled : Tiled inner)
    (someEdge : ∃ symbol ∈ inner, symbol ∉ cornerSymbols) (isCorner : first ∈ cornerSymbols)
    (isLast : last ∈ cornerSymbols) (position : Nat) :
    spans (listFrom position (first :: (inner ++ [last]))) = inner.length + 3 := by
  induction tiled generalizing first position with
  | nil =>
      obtain ⟨symbol, member, -⟩ := someEdge
      cases member
  | edge _ behind _ =>
      rw [List.cons_append, listFrom_corner isCorner, spans_cons, spans_listFrom_half behind isLast,
        List.length_cons]
      exact Nat.add_comm 2 _
  | corner isNext _ ih =>
      obtain ⟨symbol, member, notCorner⟩ := someEdge
      have inRest := (List.mem_cons.mp member).resolve_left fun same => notCorner (same ▸ isNext)
      have inBehind := (List.mem_cons.mp inRest).resolve_left fun same => notCorner (same ▸ isNext)
      rw [List.cons_append, List.cons_append, listFrom_corner isCorner, spans_cons,
        ih ⟨symbol, inBehind, notCorner⟩ isNext, List.length_cons, List.length_cons]
      exact Nat.add_comm 2 _

/-- Pieces can be counted by the slots that they cover. -/
theorem count_cover {pieces : List Piece}
    (kinds : ∀ piece ∈ pieces, piece.kind = kindOf piece.symbol) (symbol : Text) :
    (pieces.flatMap cover).count symbol =
      (pieces.map Piece.symbol).count symbol * (kindOf symbol).span := by
  induction pieces with
  | nil => simp
  | cons piece rest ih =>
      obtain ⟨kind, others⟩ := List.forall_mem_cons.mp kinds
      rw [List.flatMap_cons, List.count_append, ih others, List.map_cons, List.count_cons, cover,
        span, kind, List.count_replicate, Nat.add_mul]
      by_cases same : piece.symbol = symbol
      · simp [same, Nat.add_comm]
      · simp [same]

end Piece

namespace Layer

variable {layer : Layer}

/-- The pieces listed for a ring cover its slots, unless a corner is parted at the seam and there
are edges, too. -/
theorem cover_piecesOf (ring : Ring layer.slots)
    (corners : layer.CornerAt 11 → ∀ symbol ∈ layer.slots, symbol ∈ Piece.cornerSymbols) :
    ((piecesOf layer.slots).flatMap Piece.cover).Perm (layer.slots.map fun symbol => [symbol]) := by
  generalize same : layer.slots = slots at ring corners
  cases ring with
  | tiled tiled => exact .of_eq (Piece.cover_listFrom tiled 1)
  | @parted symbol inner isCorner tiled =>
      have inRing := corners (cornerAt_seam isCorner same)
      have inInner : ∀ other ∈ inner, other ∈ Piece.cornerSymbols := fun other member =>
        inRing other (by simp [member])
      rw [piecesOf, Piece.cover_listFrom_corners tiled inInner isCorner, List.map_cons,
        List.map_append]
      exact (List.perm_append_singleton _ _).symm.cons _

/-- With no symbol in more than two slots, tiled slots leave no corner over to be parted. -/
theorem not_cornerAt_seam (tiled : Tiled layer.slots)
    (twice : ∀ symbol, layer.slots.count symbol ≤ 2) : ¬layer.CornerAt 11 := by
  rintro ⟨isCorner, same⟩
  have last := symbolAt_eq_iff.mp (rfl : layer.symbolAt 11 = layer.symbolAt 11)
  have first := symbolAt_eq_iff.mp same
  change layer.slots[11]? = _ at last
  change layer.slots[0]? = _ at first
  generalize layer.symbolAt 11 = symbol at isCorner last first
  generalize layer.slots = slots at tiled twice last first
  cases tiled with
  | nil => cases first
  | edge isEdge _ =>
      obtain rfl := Option.some.inj first
      exact Piece.not_corner_of_edge _ isEdge isCorner
  | @corner other rest _ _ =>
      -- Both halves stand in front already, so that the last slot would hold a third.
      obtain rfl : other = symbol := Option.some.inj first
      have again : 0 < rest.count other := List.count_pos_iff.mpr (List.mem_of_getElem? last)
      have bound := twice other
      rw [List.count_cons_self, List.count_cons_self] at bound
      exact absurd bound (by omega)

/-- A corner parted at the seam of a layer with an edge makes the listing one slot too long. -/
theorem spans_piecesOf (ring : Ring layer.slots) (twice : ∀ symbol, layer.slots.count symbol ≤ 2)
    (parted : layer.CornerAt 11) (someEdge : ∃ symbol ∈ layer.slots, symbol ∉ Piece.cornerSymbols) :
    Piece.spans (piecesOf layer.slots) = slotCount + 1 := by
  have full := layer.full
  generalize same : layer.slots = slots at ring someEdge full
  cases ring with
  | tiled tiled => exact absurd parted (not_cornerAt_seam (same ▸ tiled) twice)
  | @parted symbol inner isCorner tiled =>
      have inInner : ∃ other ∈ inner, other ∉ Piece.cornerSymbols := by
        obtain ⟨other, member, notCorner⟩ := someEdge
        have distinct : other ≠ symbol := fun same => notCorner (same ▸ isCorner)
        refine ⟨other, ?_, notCorner⟩
        simpa [distinct] using member
      rw [piecesOf, Piece.spans_listFrom_parted tiled inInner isCorner isCorner, ← full]
      simp

end Layer

/-- Every piece of the puzzle is listed once and nothing else is, and the pieces of each layer fill
its slots. -/
structure PieceListing.Exact (listing : PieceListing) : Prop where
  once : ((listing.top ++ listing.bottom).map Piece.symbol).Perm
    (Text.lowerHexDigits.map fun symbol => [symbol])
  top : Piece.spans listing.top = slotCount
  bottom : Piece.spans listing.bottom = slotCount

namespace State

theorem kind_of_mem_pieces (state : State) :
    ∀ piece ∈ state.pieces.top ++ state.pieces.bottom,
      piece.kind = Piece.kindOf piece.symbol := by
  intro piece member
  rcases List.mem_append.mp member with inTop | inBottom
  · exact Piece.kind_of_mem_listFrom inTop
  · exact Piece.kind_of_mem_listFrom inBottom

theorem count_slots_le (moves : List Move) (symbol : Char) :
    (solved.applyAll moves).top.slots.count symbol ≤ 2 ∧
      (solved.applyAll moves).bottom.slots.count symbol ≤ 2 := by
  have bound : solved.symbols.count symbol ≤ 2 := by
    by_cases member : symbol ∈ solved.symbols
    · have all : ∀ symbol ∈ solved.symbols, solved.symbols.count symbol ≤ 2 :=
        Text.forall_mem_of_all (by decide)
      exact all symbol member
    · rw [List.count_eq_zero_of_not_mem member]
      exact Nat.zero_le 2
  rw [← (symbols_applyAll solved moves).count_eq, symbols, List.count_append] at bound
  omega

/-- Where the pieces listed cover the slots, each is listed once. -/
theorem symbols_of_cover (moves : List Move) {listed : List Piece}
    (kinds : ∀ piece ∈ listed, piece.kind = Piece.kindOf piece.symbol)
    (cover : (listed.flatMap Piece.cover).Perm
      ((solved.applyAll moves).symbols.map fun symbol => [symbol])) :
    (listed.map Piece.symbol).Perm (Text.lowerHexDigits.map fun symbol => [symbol]) := by
  have solvedOnce : ((solved.pieces.top ++ solved.pieces.bottom).map Piece.symbol).Perm
      (Text.lowerHexDigits.map fun symbol => [symbol]) := by
    decide +kernel
  have solvedCover : ((solved.pieces.top ++ solved.pieces.bottom).flatMap Piece.cover).Perm
      (solved.symbols.map fun symbol => [symbol]) := by
    decide +kernel
  have same := (cover.trans ((symbols_applyAll solved moves).map _)).trans solvedCover.symm
  -- A symbol fixes how many slots its pieces fill, so that equal covers come from as many of them.
  refine (List.perm_iff_count.mpr fun symbol => ?_).trans solvedOnce
  have counts := same.count_eq symbol
  rw [Piece.count_cover kinds, Piece.count_cover solved.kind_of_mem_pieces] at counts
  exact Nat.eq_of_mul_eq_mul_right (Piece.kindOf symbol).span_pos counts

/-- The listing is exact unless a corner is parted at the seam of a layer that has edges, too. -/
theorem exact_pieces_iff {moves : List Move} (rings : (solved.applyAll moves).Rings) :
    (solved.applyAll moves).pieces.Exact ↔
      ∀ layer ∈ [(solved.applyAll moves).top, (solved.applyAll moves).bottom],
        layer.CornerAt 11 → ∀ symbol ∈ layer.slots, symbol ∈ Piece.cornerSymbols := by
  constructor
  · intro exact layer member parted
    by_contra notAll
    simp only [not_forall, exists_prop] at notAll
    have overfull : Piece.spans (piecesOf layer.slots) ≠ slotCount := by
      have ring : Ring layer.slots ∧ ∀ symbol, layer.slots.count symbol ≤ 2 := by
        rcases List.mem_pair.mp member with rfl | rfl
        · exact ⟨rings.top, fun symbol => (count_slots_le moves symbol).1⟩
        · exact ⟨rings.bottom, fun symbol => (count_slots_le moves symbol).2⟩
      rw [Layer.spans_piecesOf ring.1 ring.2 parted notAll]
      exact Nat.succ_ne_self slotCount
    rcases List.mem_pair.mp member with rfl | rfl
    · exact overfull exact.top
    · exact overfull exact.bottom
  · intro corners
    have top := Layer.cover_piecesOf rings.top (corners _ (by simp))
    have bottom := Layer.cover_piecesOf rings.bottom (corners _ (by simp))
    have spans : ∀ layer : Layer, ((piecesOf layer.slots).flatMap Piece.cover).Perm
        (layer.slots.map fun symbol => [symbol]) →
        Piece.spans (piecesOf layer.slots) = slotCount := by
      intro layer cover
      rw [← Piece.length_cover, cover.length_eq, List.length_map, layer.full]
    refine ⟨?_, spans _ top, spans _ bottom⟩
    apply symbols_of_cover moves (kind_of_mem_pieces _)
    rw [List.flatMap_append, symbols, List.map_append]
    exact top.append bottom

end State

namespace Scramble

/-- A scramble in which every swap finds both layers separable leads to a state whose pieces are all
listed once, unless its last turn leaves a corner parted at the seam of a layer that has edges, too.
-/
theorem pieces_exact_iff {scramble : Text} {moves : List Move}
    (read : Scramble.moves scramble = .ok moves) (legal : State.solved.LegalFrom moves) :
    ∃ state, compile scramble .solved = .ok state ∧
      (state.pieces.Exact ↔ ∀ layer ∈ [state.top, state.bottom],
        layer.CornerAt 11 → ∀ symbol ∈ layer.slots, symbol ∈ Piece.cornerSymbols) :=
  ⟨State.solved.applyAll moves, bind_ok read _,
    State.exact_pieces_iff (State.rings_applyAll State.rings_solved legal)⟩

theorem pieces_exact_iff_swaps :
    ∃ state, compile "(1,0)/(3,0)/(0,2)".toList .solved = .ok state ∧ state.pieces.Exact := by
  have expanded : expand "(1,0)/(3,0)/(0,2)".toList = .ok "1,0/3,0/0,2".toList :=
    (expand_of_isCanonical (by decide)).trans (congrArg Except.ok (by decide +kernel))
  have read : Scramble.moves "(1,0)/(3,0)/(0,2)".toList =
      .ok [.turn ⟨1, 0⟩, .swap, .turn ⟨3, 0⟩, .swap, .turn ⟨0, 2⟩] :=
    (bind_ok expanded _).trans (congrArg Except.ok (by decide +kernel))
  obtain ⟨state, compiled, exact⟩ := pieces_exact_iff read (by decide)
  refine ⟨state, compiled, exact.mpr ?_⟩
  obtain rfl := Except.ok.inj (compiled.symm.trans (bind_ok read _))
  decide +kernel

/-- Without any swap, a turn by two slots parts the corner `1`: it is listed twice, and the edge `2`
is lost. -/
theorem pieces_parted :
    Scramble.moves "2,0".toList = .ok [.turn ⟨2, 0⟩] ∧ State.solved.LegalFrom [.turn ⟨2, 0⟩] ∧
      ∃ state, compile "2,0".toList .solved = .ok state ∧ ¬state.pieces.Exact ∧
        Piece.spans state.pieces.top = slotCount + 1 ∧
        ∀ piece ∈ state.pieces.top ++ state.pieces.bottom, piece.symbol ≠ ['2'] := by
  have expanded : expand "2,0".toList = .ok "2,0".toList :=
    (expand_of_isCanonical (by decide)).trans (congrArg Except.ok (by decide +kernel))
  have read : Scramble.moves "2,0".toList = .ok [.turn ⟨2, 0⟩] :=
    (bind_ok expanded _).trans (congrArg Except.ok (by decide +kernel))
  have overfull :
      Piece.spans (State.solved.applyAll [.turn ⟨2, 0⟩]).pieces.top = slotCount + 1 := by
    decide +kernel
  refine ⟨read, by decide, _, bind_ok read _, fun exact => ?_, overfull, by decide +kernel⟩
  exact absurd (overfull.symm.trans exact.top) (by decide)

end Scramble

end SquareOne
