import SquareOne.Puzzle.Alignment
import SquareOne.Text.Numeral
import SquareOne.Text.Quoted

/-! The causes for which a request is refused, and the message of each. -/

namespace SquareOne

/-- Which of the two layers. -/
inductive Side where
  | top
  | bottom
deriving DecidableEq, Repr

def Side.name : Side → Text
  | .top => "top".toList
  | .bottom => "bottom".toList

inductive Fault where
  /-- Two layers were to be swapped and not both have twelve slots. -/
  | swapLengths (top bottom : Nat)
  /-- One layer of a state has not twelve slots. -/
  | layerLength (side : Side) (found : Nat)
  /-- The wire form of a state has not twenty-four characters beside its separator. -/
  | stateLength (found : Nat)
  /-- A layer of a wire form has a character that is no hexadecimal digit. -/
  | layerDigits (layer : Text)
  /-- A compact number is too long to be cut into a pair; words are counted from zero. -/
  | unrecognizedWord (word : Text) (position : Nat)
  /-- No sequence of that name is known for the alignment. -/
  | unknownShorthand (name : Text) (alignment : Alignment)
  /-- The two layers were to be separated by something else than a bar or a slash. -/
  | separator
  /-- A key of a rewrite table is not set between spaces. -/
  | unpaddedKey (key : Text)
  /-- A shorthand was entered for a suffix that names no alignment. -/
  | alignmentSuffix (name suffix : Text)
  /-- Rewriting still changed the text in its last pass. -/
  | unsettled (passes : Int)
  /-- A key was looked up in a rewrite table that has no entry for it. -/
  | missingKey (key : Text)
  /-- A colour scheme names faces that the puzzle does not have. -/
  | unknownFaces (names : List Text)
  | colour (text : Text)
  | stickerId (id : Text)
  /-- A sticker was given something that is neither a colour nor a face. -/
  | stickerColour (value : Text)
  /-- A sticker shows a face that the scheme leaves without colour. -/
  | uncolouredFace (face : Text)
  | inputMode (mode : Text)
  /-- A scramble was called for and no text was given. -/
  | missingScramble
  /-- A wire form was called for and no text was given. -/
  | missingWire
  /-- Something that is no move was to be applied. -/
  | foreignMove (label : Text)
deriving DecidableEq, Repr

namespace Fault

/-- What is wrong with the request, in coarse terms. -/
inductive Kind where
  | malformedState
  | unrecognizedWord
  | unknownShorthand
  | badArgument
  | unsettled
  | missingKey
  | missingScramble
  | missingWire
  | foreignMove
deriving DecidableEq, Repr

def kind : Fault → Kind
  | .swapLengths .. | .layerLength .. | .stateLength .. | .layerDigits .. => .malformedState
  | .unrecognizedWord .. => .unrecognizedWord
  | .unknownShorthand .. => .unknownShorthand
  | .unsettled .. => .unsettled
  | .missingKey .. => .missingKey
  | .missingScramble => .missingScramble
  | .missingWire => .missingWire
  | .foreignMove .. => .foreignMove
  | .separator | .unpaddedKey .. | .alignmentSuffix .. | .unknownFaces .. | .colour ..
  | .stickerId .. | .stickerColour .. | .uncolouredFace .. | .inputMode .. => .badArgument

/-- Whether the fault lies in the scramble or the state that was given. -/
def rejectsInput (fault : Fault) : Bool :=
  match fault.kind with
  | .malformedState | .unrecognizedWord | .unknownShorthand => true
  | .badArgument | .unsettled | .missingKey | .missingScramble | .missingWire | .foreignMove =>
      false

def message : Fault → Text
  | .swapLengths top bottom =>
      "Layers must contain exactly 12 slots, got ".toList ++ Nat.toDigits 10 top ++
        " and ".toList ++ Nat.toDigits 10 bottom
  | .layerLength side found =>
      side.name ++ " layer must contain exactly 12 slots, got ".toList ++ Nat.toDigits 10 found
  | .stateLength found =>
      "State must be 24 data characters (plus optional | separator), got ".toList ++
        Nat.toDigits 10 found
  | .layerDigits layer =>
      "State layer '".toList ++ layer ++ "' must contain only hex digits".toList
  | .unrecognizedWord word position =>
      "Unrecognized move '".toList ++ word ++ "' at token ".toList ++ Nat.toDigits 10 position
  | .unknownShorthand name alignment =>
      "Unknown shorthand '".toList ++ name ++ "' for alignment ".toList ++ alignment.suffix
  | .separator => "separator must be one of ('|', '/')".toList
  | .unpaddedKey key => "Rewrite key must be space-padded, got ".toList ++ key.quoted
  | .alignmentSuffix name suffix =>
      "Invalid alignment suffix '".toList ++ suffix ++ "' for shorthand '".toList ++ name ++
        "'".toList
  | .unsettled passes =>
      "Rewrite table did not converge within ".toList ++ Numeral.write passes ++ " passes".toList
  | .missingKey key => key.quoted
  | .unknownFaces names =>
      "Unknown scheme faces: ".toList ++ ", ".toList.intercalate names
  | .colour text => "Invalid color '".toList ++ text ++ "' (expected #RRGGBB)".toList
  | .stickerId id => "piece id ".toList ++ id ++ " is not valid.".toList
  | .stickerColour value =>
      "Sticker colour '".toList ++ value ++ "' is neither #RRGGBB nor a scheme face".toList
  | .uncolouredFace face => "Scheme face '".toList ++ face ++ "' has no colour".toList
  | .inputMode mode =>
      "mode must be one of ('scramble', 'inverse', 'hex'), got '".toList ++ mode ++ "'".toList
  | .missingScramble => "expected string or bytes-like object, got 'list'".toList
  | .missingWire => "'list' object has no attribute 'strip'".toList
  | .foreignMove label => "Unsupported move: ".toList ++ label.quoted

end Fault

end SquareOne
