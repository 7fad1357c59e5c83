import SquareOne.Colour.Scheme
import SquareOne.Text.LowerCase

/-! The stickers of the pieces, and the colours they are drawn in.

A sticker is named by the symbol of its piece and its place on the piece. It has the colour of its
face, unless it is overridden with another face or with a colour of its own.
-/

namespace SquareOne

structure Sticker where
  symbol : Char
  place : Text
  face : Face
deriving DecidableEq, Repr

namespace Sticker

def ofEdge (symbol : Char) (inner outer : Face) : List Sticker :=
  [⟨symbol, "inner".toList, inner⟩, ⟨symbol, "outer".toList, outer⟩]

/-- The three stickers of a corner: the flat one, and those on its two sides. -/
def ofCorner (symbol : Char) (flat leftSide rightSide : Face) : List Sticker :=
  [⟨symbol, "top".toList, flat⟩, ⟨symbol, "left".toList, leftSide⟩,
    ⟨symbol, "right".toList, rightSide⟩]

def all : List Sticker :=
  ofEdge '0' .top .back ++ ofEdge '2' .top .left ++ ofEdge '4' .top .front ++
    ofEdge '6' .top .right ++ ofEdge '8' .bottom .right ++ ofEdge 'a' .bottom .front ++
    ofEdge 'c' .bottom .left ++ ofEdge 'e' .bottom .back ++
    ofCorner '1' .top .back .left ++ ofCorner '3' .top .left .front ++
    ofCorner '5' .top .front .right ++ ofCorner '7' .top .right .back ++
    ofCorner '9' .bottom .back .right ++ ofCorner 'b' .bottom .right .front ++
    ofCorner 'd' .bottom .front .left ++ ofCorner 'f' .bottom .left .back

/-- The name of the sticker: symbol and place with a space between them. -/
def id (sticker : Sticker) : Text :=
  sticker.symbol :: ' ' :: sticker.place

/-- The sticker that an id names; the symbol may be given in either case. -/
def ofId (id : Text) : Except Fault Sticker :=
  match id.splitOn ' ' with
  | [symbol, place] =>
      match all.find? fun sticker =>
          [sticker.symbol] = Text.lower symbol && sticker.place = place with
      | some sticker => .ok sticker
      | none => .error (.stickerId id)
  | _ => .error (.stickerId id)

/-- What is entered for a sticker: its override, or else the name of its face. -/
def entry (sticker : Sticker) (overrides : Dictionary Text (Option Text)) : Text :=
  ((overrides.get? sticker.id).join).getD sticker.face.name

/-- The colour that an entry gives: itself when it starts with a number sign, else the colour of the
face that it names. -/
def colourOfEntry (entry : Text) (scheme : Scheme) : Except Fault Text :=
  if entry.head? = some '#' then do
    Colour.check entry
    return entry
  else
    match Face.ofName? entry with
    | none => .error (.stickerColour entry)
    | some face =>
        match scheme.colourOf? face with
        | some colour => .ok colour
        | none => .error (.uncolouredFace entry)

def colour (id : Text) (scheme : Scheme) (overrides : Dictionary Text (Option Text)) :
    Except Fault Text := do
  let sticker ← ofId id
  scheme.check
  colourOfEntry (sticker.entry overrides) scheme

end Sticker

end SquareOne
