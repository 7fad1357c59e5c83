import SquareOne.Scramble.Moves

/-! The inverse of a scramble, made on its text.

The text is cut at the slashes, and the fragments are put into the opposite order. In each of them
every numeral of a turn is negated: turns are the groups in parentheses, and the runs of other
characters that hold a comma. All else stays as it is.
-/

namespace SquareOne

/-- A piece of a fragment of scramble text. -/
inductive Part where
  /-- What stands between an opening and a closing parenthesis, with no parenthesis inside. -/
  | group (body : Text)
  /-- A longest run of characters other than blanks, parentheses and slashes. -/
  | run (word : Text)
  /-- A blank, a slash, or a parenthesis that bounds no group. -/
  | mark (char : Char)
deriving DecidableEq, Repr

namespace Part

def isRunChar (char : Char) : Bool :=
  !(Text.isBlank char || isParenthesis char || char == '/')

def text : Part → Text
  | .group body => '(' :: body ++ [')']
  | .run word => word
  | .mark char => [char]

/-- The text of a group whose opening parenthesis stands right before `parts`, and the parts after
the group. -/
def closeGroup? : List Part → Option (Text × List Part)
  | [] => none
  | .group _ :: _ => none
  | .run word :: rest => (closeGroup? rest).map fun (body, after) => (word ++ body, after)
  | .mark char :: rest =>
      if char = ')' then some ([], rest)
      else if char = '(' then none
      else (closeGroup? rest).map fun (body, after) => (char :: body, after)

/-- The parts of a text that starts with `char` and goes on with the text of `parts`. -/
def push (char : Char) (parts : List Part) : List Part :=
  if isRunChar char then
    match parts with
    | .run word :: rest => .run (char :: word) :: rest
    | _ => .run [char] :: parts
  else if char = '(' then
    match closeGroup? parts with
    | some (body, after) => .group body :: after
    | none => .mark char :: parts
  else .mark char :: parts

def ofText (text : Text) : List Part :=
  text.foldr push []

/-- The numeral of the opposite number; a text that is no numeral is only trimmed. -/
def negateNumeral (text : Text) : Text :=
  match Numeral.read? text.trim with
  | some value => Numeral.write (-value)
  | none => text.trim

/-- Negates the numerals between the commas. -/
def negateList (text : Text) : Text :=
  Text.joinWith ',' ((text.splitOn ',').map negateNumeral)

def negate : Part → Part
  | .group body => .group (negateList body)
  | .run word => .run (if word.contains ',' then negateList word else word)
  | .mark char => .mark char

end Part

namespace Scramble

/-- A fragment with every turn in it negated in its place. -/
def negateTurns (fragment : Text) : Text :=
  (Part.ofText fragment).flatMap fun part => part.negate.text

/-- The fragments in the opposite order, each trimmed and with its turns negated. -/
def invert (scramble : Text) : Text :=
  Text.joinWith '/'
    ((scramble.trim.splitOn '/').reverse.map fun fragment => negateTurns (Text.trim fragment))

end Scramble

namespace Part

theorem closeGroup?_text {parts after : List Part} {body : Text}
    (closed : closeGroup? parts = some (body, after)) :
    parts.flatMap text = body ++ ')' :: after.flatMap text := by
  induction parts generalizing body with
  | nil => simp [closeGroup?] at closed
  | cons part rest ih =>
      cases part with
      | group => simp [closeGroup?] at closed
      | run word =>
          simp only [closeGroup?, Option.map_eq_some_iff, Prod.mk.injEq, Prod.exists] at closed
          obtain ⟨inner, tail, found, rfl, rfl⟩ := closed
          simp [text, ih found]
      | mark char =>
          simp only [closeGroup?] at closed
          split at closed
          · rename_i closing
            simp only [Option.some.injEq, Prod.mk.injEq] at closed
            obtain ⟨rfl, rfl⟩ := closed
            simp [text, closing]
          · split at closed
            · cases closed
            · simp only [Option.map_eq_some_iff, Prod.mk.injEq, Prod.exists] at closed
              obtain ⟨inner, tail, found, rfl, rfl⟩ := closed
              simp [text, ih found]

theorem push_text (char : Char) (parts : List Part) :
    (push char parts).flatMap text = char :: parts.flatMap text := by
  unfold push
  split
  · split <;> simp [text]
  · split
    · rename_i opening
      split
      · rename_i closed
        simp [text, closeGroup?_text closed, opening]
      · simp [text]
    · simp [text]

/-- Nothing is lost when a text is cut into parts. -/
theorem ofText_text (source : Text) : (ofText source).flatMap text = source := by
  induction source with
  | nil => rfl
  | cons char rest ih => rw [ofText, List.foldr_cons, push_text]; exact congrArg _ ih

end Part

end SquareOne
