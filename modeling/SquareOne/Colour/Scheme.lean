import SquareOne.Colour.Hex
import SquareOne.Dictionary

/-! Colour schemes: which colour each face of the picture has.

A scheme that is given names some faces; the others keep their standard colours. A face may also be
transparent, or have no colour at all.
-/

namespace SquareOne

/-- The faces of the puzzle, and the parts of the picture that are coloured like them. -/
inductive Face where
  | top
  | bottom
  | front
  | right
  | back
  | left
  | border
  | divider
  | circle
  | slice
deriving DecidableEq, Repr

namespace Face

def all : List Face :=
  [.top, .bottom, .front, .right, .back, .left, .border, .divider, .circle, .slice]

def name : Face → Text
  | .top => "top".toList
  | .bottom => "bottom".toList
  | .front => "front".toList
  | .right => "right".toList
  | .back => "back".toList
  | .left => "left".toList
  | .border => "border".toList
  | .divider => "divider".toList
  | .circle => "circle".toList
  | .slice => "slice".toList

def ofName? (name : Text) : Option Face :=
  all.find? fun face => face.name = name

theorem ofName?_name (face : Face) : ofName? face.name = some face := by
  cases face <;> rfl

end Face

namespace Colour

def transparent : Text := "transparent".toList

/-- The colours of the faces that a scheme does not name; no line is drawn at the slice. -/
def standard : Face → Option Text
  | .top => some "#4D4D4D".toList
  | .bottom => some "#FFFFFF".toList
  | .front => some "#CC0000".toList
  | .right => some "#00AA00".toList
  | .back => some "#FF8C00".toList
  | .left => some "#0066CC".toList
  | .border => some "#000000".toList
  | .divider => some "#7A0000".toList
  | .circle => some transparent
  | .slice => none

end Colour

/-- Colours under the names of faces, as they are given. -/
abbrev Scheme := Dictionary Text (Option Text)

namespace Scheme

def standard : Scheme :=
  Dictionary.empty

/-- The names that belong to no face, in order. -/
def unknownNames (scheme : Scheme) : List Text :=
  (scheme.keys.filter fun name => (Face.ofName? name).isNone).mergeSort Text.precedes

/-- Refuses an entry that is neither a colour, nor transparent, nor without colour. -/
def checkEntry : Option Text → Except Fault Unit
  | none => .ok ()
  | some colour => if colour = Colour.transparent then .ok () else Colour.check colour

/-- Refuses a scheme with unknown names, or else at its first entry that is no colour. -/
def check (scheme : Scheme) : Except Fault Unit :=
  if scheme.unknownNames.isEmpty then scheme.values.forM checkEntry
  else .error (.unknownFaces scheme.unknownNames)

def colourOf? (scheme : Scheme) (face : Face) : Option Text :=
  (scheme.get? face.name).getD (Colour.standard face)

end Scheme

end SquareOne
