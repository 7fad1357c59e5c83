import SquareOne.Puzzle.Piece
import SquareOne.Scramble.Mode

/-! Replies to requests that come in with named fields: resolving a text to a state, expanding and
inverting scrambles, listing the pieces of a state, and a sign of life.

A request whose fields do not have the required form is refused with status 422, one whose text is
refused with status 400.
-/

namespace SquareOne.Service

/-- The value of a field: a text, or something else. -/
inductive Field where
  | text (text : Text)
  | other
deriving DecidableEq, Repr

/-- The named fields of a request, if it has any. -/
abbrev Form := Option (List (Text × Field))

inductive Request where
  | resolve (form : Form)
  | expand (form : Form)
  | invert (form : Form)
  | pieces (query : List (Text × Text))
  | health
deriving DecidableEq, Repr

inductive Content where
  /-- The mode that was asked for, the wire form of the state and the slots of its layers. -/
  | resolved (mode : Mode) (wire top bottom : Text)
  | expanded (scramble expansion : Text)
  | inverted (scramble inverse : Text)
  | pieces (listing : PieceListing)
  | alive
deriving DecidableEq, Repr

inductive Reply where
  | success (content : Content)
  /-- The request is of the required form and still refused. -/
  | refused (status : Nat) (detail : Text)
  /-- The request is not of the required form. -/
  | misformed
deriving DecidableEq, Repr

namespace Reply

def status : Reply → Nat
  | .success _ => 200
  | .refused status _ => status
  | .misformed => 422

/-- The reply to a request that had a fault: whatever the caller could have avoided is the caller's
mistake, the rest is the service's own. -/
def ofFault (fault : Fault) : Reply :=
  match fault.kind with
  | .malformedState | .unrecognizedWord | .unknownShorthand | .badArgument =>
      .refused 400 fault.message
  | .unsettled | .missingKey | .missingScramble | .missingWire | .foreignMove =>
      .refused 500 fault.message

def ofResult : Except Fault Content → Reply
  | .ok content => .success content
  | .error fault => ofFault fault

end Reply

namespace Form

def field? (form : List (Text × Field)) (name : Text) : Option Field :=
  (form.find? fun entry => entry.1 = name).map Prod.snd

def text? (form : Form) (name : String) : Option Text := do
  match ← field? (← form) name.toList with
  | .text text => some text
  | .other => none

/-- The mode that a form asks for, a scramble unless it says otherwise. -/
def mode? (form : Form) : Option Mode := do
  match field? (← form) "mode".toList with
  | none => some .scramble
  | some (.text name) => Mode.ofName? name
  | some .other => none

end Form

/-- The separator that the environment sets; blanks around it do not count, and a bar is used when
nothing else is left. -/
def separatorOf (setting : Option Text) : Except Fault Separator :=
  let text := (setting.getD []).trim
  if text.isEmpty then .ok .bar else Separator.ofText text

def serve (separator : Separator) : Request → Reply
  | .resolve form =>
      match Form.text? form "input", Form.mode? form with
      | some input, some mode =>
          .ofResult do
            let state ← State.resolve mode input
            return .resolved mode (state.render separator) state.top.slots state.bottom.slots
      | _, _ => .misformed
  | .expand form =>
      match Form.text? form "scramble" with
      | some scramble => .ofResult do return .expanded scramble (← Scramble.expand scramble)
      | none => .misformed
  | .invert form =>
      match Form.text? form "scramble" with
      | some scramble => .ofResult do return .inverted scramble (← Scramble.expandInverse scramble)
      | none => .misformed
  | .pieces query =>
      match query.find? fun entry => entry.1 = "state".toList with
      | some (_, wire) => .ofResult do return .pieces (← State.parse wire).pieces
      | none => .misformed
  | .health => .success .alive

end SquareOne.Service
