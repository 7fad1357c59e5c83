import SquareOne.CommandLine.Arguments

/-! What the command line program answers: its exit code and the lines of its two outputs.

A scramble or state that is refused is reported on the error output, with exit code 2. When the work
is to be reported, a line on the error output tells of every expansion and every compilation.
-/

namespace SquareOne.CommandLine

structure Report where
  exitCode : Nat
  output : List Text
  errors : List Text
deriving DecidableEq, Repr

/-- A line on the work, with the level and the part of the program that it comes from. -/
def note (body : Text) : Text :=
  "DEBUG:sq1vis.compiler:".toList ++ body

def expansionNote (scramble expanded : Text) : Text :=
  note ("Expanded scramble ".toList ++ scramble.quoted ++ " -> ".toList ++ expanded.quoted)

/-- The line that tells how many moves led to a state. -/
def compilationNote (separator : Separator) (moves : List Move) (state : State) : Text :=
  note ("Compiled ".toList ++ Nat.toDigits 10 moves.length ++ " moves into ".toList ++
    state.render separator)

/-- The lines that tell of expanding a scramble; an expansion that is refused leaves none. -/
def expandNotes (scramble : Text) : List Text :=
  match Scramble.expand scramble with
  | .ok expanded => [expansionNote scramble expanded]
  | .error _ => []

def compileNotes (separator : Separator) (scramble : Text) : List Text :=
  expandNotes scramble ++
    match Scramble.moves scramble with
    | .ok moves => [compilationNote separator moves (State.solved.applyAll moves)]
    | .error _ => []

/-- The lines that tell of finding the state that a text names. -/
def resolveNotes (separator : Separator) (mode : Mode) (text : Text) : List Text :=
  match mode with
  | .scramble => compileNotes separator text
  | .inverse =>
      expandNotes text ++
        match Scramble.expandInverse text with
        | .ok inverted => compileNotes separator inverted
        | .error _ => []
  | .hex => []

namespace Request

/-- Whether the expansion is shown: a wire form has none. -/
def showsExpansion (request : Request) : Bool :=
  request.expanded && request.mode != .hex

/-- The lines on the work that the request asks for, up to where it is refused. -/
def notes (request : Request) : List Text :=
  if !request.verbose then []
  else if !request.showsExpansion then
    resolveNotes request.separator request.mode request.text
  else
    match Scramble.expand request.text with
    | .ok expanded =>
        expansionNote request.text expanded ::
          resolveNotes request.separator request.mode request.text
    | .error _ => []

/-- The line that shows the expansion, if it is asked for. -/
def expansionLines (request : Request) : Except Fault (List Text) :=
  if request.showsExpansion then do
    return ["Expanded: ".toList ++ (← Scramble.expand request.text)]
  else .ok []

/-- The line that shows the state. -/
def stateLine (request : Request) : Except Fault Text := do
  return (← State.resolve request.mode request.text).render request.separator

/-- Carries out a request. The lines that were shown before a fault stay. -/
def carryOut (request : Request) : Except Fault Report :=
  match request.expansionLines with
  | .error fault => refuse [] fault
  | .ok shown =>
      match request.stateLine with
      | .error fault => refuse shown fault
      | .ok line => .ok ⟨0, shown ++ [line], request.notes⟩
where
  /-- Only faults in the input are reported; any other is left to the caller. -/
  refuse (shown : List Text) (fault : Fault) : Except Fault Report :=
    if fault.rejectsInput then
      .ok ⟨2, shown, request.notes ++ ["error: ".toList ++ fault.message]⟩
    else .error fault

end Request

/-- The answer to a command line: why it asks for nothing, or the report on what it asks for. -/
inductive Outcome where
  | stopped (stop : Stop)
  | reported (report : Report)
deriving DecidableEq, Repr

def Stop.exitCode : Stop → Nat
  | .help => 0
  | .usage => 2

def run (arguments : List Text) : Except Fault Outcome :=
  match Request.ofArguments arguments with
  | .error stop => .ok (.stopped stop)
  | .ok (.error fault) => .error fault
  | .ok (.ok request) => request.carryOut.map .reported

end SquareOne.CommandLine
