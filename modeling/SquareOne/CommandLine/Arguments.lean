import SquareOne.Scramble.Mode

/-! The arguments of the command line.

An option may be shortened as long as no other option starts the same way, and its value may follow
an equals sign or stand in the next argument. An argument that starts with a hyphen is a value only
if it looks like a negative number or holds a space. One source is required, two different ones are
refused, and of several values for an option the last counts.

Two hyphens behind the equals sign take the place of a value without being one. The option then
counts as given, but what it was given for cannot be carried out.
-/

namespace SquareOne.CommandLine

/-- What the command line asks for. -/
structure Request where
  mode : Mode
  text : Text
  separator : Separator
  /-- Whether the expansion is to be shown as well. -/
  expanded : Bool
  /-- Whether the work is to be reported. -/
  verbose : Bool
deriving DecidableEq, Repr

inductive Stop where
  | help
  | usage
deriving DecidableEq, Repr

inductive Flag where
  | help
  | source (mode : Mode)
  | separator
  | expanded
  | verbose
deriving DecidableEq, Repr

namespace Flag

def names : List (Text × Flag) :=
  [("--help".toList, .help), ("--scramble".toList, .source .scramble),
    ("--alg".toList, .source .inverse), ("--hex".toList, .source .hex),
    ("--separator".toList, .separator), ("--expanded".toList, .expanded),
    ("--verbose".toList, .verbose)]

def takesValue : Flag → Bool
  | .source _ | .separator => true
  | .help | .expanded | .verbose => false

end Flag

inductive Argument where
  /-- An option, with the value that is joined to it. -/
  | option (flag : Flag) (joined : Option Text)
  /-- An option that there is not. -/
  | unknown
  | value (text : Text)
  /-- The two hyphens after which there are no options. -/
  | endOfOptions
deriving DecidableEq, Repr

namespace Argument

/-- A hyphen before digits of any script, which a point may precede or divide; a line end behind
them does not count. -/
def isNegativeNumber (argument : Text) : Bool :=
  let isDigit := fun char => (Text.digitValue? char).isSome
  match argument with
  | '-' :: number =>
      let number := if number.getLast? = some '\n' then number.dropLast else number
      match number.dropWhile isDigit with
      | [] => !number.isEmpty
      | '.' :: fraction => !fraction.isEmpty && fraction.all isDigit
      | _ => false
  | _ => false

/-- Cuts an argument at its first equals sign. -/
def splitValue (argument : Text) : Text × Option Text :=
  match argument.dropWhile (· != '=') with
  | [] => (argument, none)
  | _ :: joined => (argument.takeWhile (· != '='), some joined)

/-- An argument that starts with a hyphen and names no option. -/
def ofOther (argument : Text) : Argument :=
  if isNegativeNumber argument || argument.contains ' ' then .value argument else .unknown

/-- The short form of help, with what is joined to it. The letter for help may be repeated, also
behind an equals sign; anything else that is joined is refused. -/
def ofShortHelp (joined : Text) : Argument :=
  let letters : Text :=
    match joined with
    | '=' :: rest => rest
    | _ => joined
  if joined.isEmpty || (!letters.isEmpty && letters.all (· == 'h')) then .option .help none
  else .option .help (some joined)

/-- An argument that starts with two hyphens and goes on. -/
def ofLong (argument : Text) : Except Stop Argument :=
  let (name, joined) := splitValue argument
  match Flag.names.find? fun entry => entry.1 = name with
  | some (_, flag) => .ok (.option flag joined)
  | none =>
      match Flag.names.filter fun entry => name.isPrefixOf entry.1 with
      | [] => .ok (ofOther argument)
      | [(_, flag)] => .ok (.option flag joined)
      | _ => .error .usage

def ofText (argument : Text) : Except Stop Argument :=
  match argument with
  | '-' :: '-' :: _ => ofLong argument
  | '-' :: 'h' :: joined => .ok (ofShortHelp joined)
  | '-' :: _ :: _ => .ok (ofOther argument)
  | _ => .ok (.value argument)

/-- All arguments; after two hyphens every one of them is a value. -/
def ofTexts : List Text → Except Stop (List Argument)
  | [] => .ok []
  | first :: rest =>
      if first = ['-', '-'] then .ok (.endOfOptions :: rest.map .value)
      else do return (← ofText first) :: (← ofTexts rest)

end Argument

/-- What the arguments read so far have asked for. -/
structure Draft where
  /-- The source, and its text unless that was left out. -/
  source : Option (Mode × Option Text)
  /-- The separator, unless it was left out of its option. -/
  separator : Option Separator
  expanded : Bool
  verbose : Bool
  /-- Whether there was an argument that nothing asks for. -/
  stray : Bool
deriving DecidableEq, Repr

namespace Draft

def blank : Draft where
  source := none
  separator := some .bar
  expanded := false
  verbose := false
  stray := false

/-- Notes an option together with its value, which may have been left out. -/
def enter (draft : Draft) (flag : Flag) (value : Option Text) : Except Stop Draft :=
  match flag with
  | .source mode =>
      match draft.source with
      | some (other, _) =>
          if other = mode then .ok { draft with source := some (mode, value) } else .error .usage
      | none => .ok { draft with source := some (mode, value) }
  | .separator =>
      match value.map Separator.ofText with
      | some (.ok separator) => .ok { draft with separator := some separator }
      | some (.error _) => .error .usage
      | none => .ok { draft with separator := none }
  | .help | .expanded | .verbose => .error .usage

/-- Notes an option that has no value. -/
def mark (draft : Draft) (flag : Flag) : Except Stop Draft :=
  match flag with
  | .help => .error .help
  | .expanded => .ok { draft with expanded := true }
  | .verbose => .ok { draft with verbose := true }
  | .source _ | .separator => .error .usage

/-- The value in a text that is joined to an option. -/
def joinedValue (joined : Text) : Option Text :=
  if joined = ['-', '-'] then none else some joined

/-- Reads the arguments from the left. -/
def read (draft : Draft) : List Argument → Except Stop Draft
  | [] => .ok draft
  | .option flag (some joined) :: rest => do (← draft.enter flag (joinedValue joined)).read rest
  | .option flag none :: .value text :: rest =>
      if flag.takesValue then do (← draft.enter flag (some text)).read rest
      else do (← draft.mark flag).read (.value text :: rest)
  | .option flag none :: rest => do (← draft.mark flag).read rest
  | _ :: rest => { draft with stray := true }.read rest

/-- The request for what `mode` makes of `text`, refused when a value was left out. -/
def request (draft : Draft) (mode : Mode) (text : Option Text) : Except Fault Request :=
  match draft.separator, text with
  | none, _ => .error .separator
  | some separator, some text => .ok ⟨mode, text, separator, draft.expanded, draft.verbose⟩
  | some _, none => .error (if mode = .hex then .missingWire else .missingScramble)

/-- What the finished draft asks for, if there is a source and nothing is left over. -/
def finish (draft : Draft) : Except Stop (Except Fault Request) :=
  match draft.source with
  | some (mode, text) => if draft.stray then .error .usage else .ok (draft.request mode text)
  | none => .error .usage

end Draft

namespace Request

def ofArguments (arguments : List Text) : Except Stop (Except Fault Request) := do
  let arguments ← Argument.ofTexts arguments
  (← Draft.blank.read arguments).finish

end Request

end SquareOne.CommandLine
