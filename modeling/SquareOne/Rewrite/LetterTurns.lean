import SquareOne.Rewrite.Table

/-! The letters that name turns, down to numeric pairs.

Some letters stand for sequences of simpler letters, which further passes replace in their turn. An
apostrophe marks the inverse, capitals and small letters name different turns.
-/

namespace SquareOne.Rewrite

/-- Every letter turn with the words that replace it. -/
def letterWords : List (String × List String) :=
  [
    ("U4", ["U", "U'", "U", "U'"]), ("U4'", ["U'", "U", "U'", "U"]),
    ("D4", ["D", "D'", "D", "D'"]), ("D4'", ["D'", "D", "D'", "D"]),
    ("u4", ["u", "u'", "u", "u'"]), ("u4'", ["u'", "u", "u'", "u"]),
    ("d4", ["d", "d'", "d", "d'"]), ("d4'", ["d'", "d", "d'", "d"]), ("U3", ["U", "U'", "U"]),
    ("U3'", ["U'", "U", "U'"]), ("D3", ["D", "D'", "D"]), ("D3'", ["D'", "D", "D'"]),
    ("u3", ["u", "u'", "u"]), ("u3'", ["u'", "u", "u'"]), ("d3", ["d", "d'", "d"]),
    ("d3'", ["d'", "d", "d'"]), ("F3", ["F", "F'", "F"]), ("F3'", ["F'", "F", "F'"]),
    ("f3", ["f", "f'", "f"]), ("f3'", ["f'", "f", "f'"]), ("W", ["U", "U'"]),
    ("W'", ["U'", "U"]), ("B", ["D", "D'"]), ("B'", ["D'", "D"]), ("w", ["u", "u'"]),
    ("w'", ["u'", "u"]), ("b", ["d", "d'"]), ("b'", ["d'", "d"]), ("F2", ["F", "F'"]),
    ("F2'", ["F'", "F"]), ("f2", ["f", "f'"]), ("f2'", ["f'", "f"]), ("UU", ["U", "U"]),
    ("UU'", ["U'", "U'"]), ("DD", ["D", "D"]), ("DD'", ["D'", "D'"]), ("U2", ["6,0"]),
    ("U2D", ["6,3"]), ("U2D'", ["6,-3"]), ("U2D2", ["6,6"]), ("D2", ["0,6"]), ("UD2", ["3,6"]),
    ("U'D2", ["-3,6"]), ("U", ["3,0"]), ("U'", ["-3,0"]), ("D", ["0,3"]), ("D'", ["0,-3"]),
    ("E", ["3,-3"]), ("E'", ["-3,3"]), ("e", ["3,3"]), ("e'", ["-3,-3"]), ("u", ["2,-1"]),
    ("u'", ["-2,1"]), ("d", ["-1,2"]), ("d'", ["1,-2"]), ("F", ["4,1"]), ("F'", ["-4,-1"]),
    ("f", ["1,4"]), ("f'", ["-1,-4"]), ("T", ["2,-4"]), ("T'", ["-2,4"]), ("t", ["4,-2"]),
    ("t'", ["-4,2"]), ("m", ["2,2"]), ("m'", ["-2,-2"]), ("M", ["1,1"]), ("M'", ["-1,-1"]),
    ("u2", ["5,-1"]), ("u2'", ["-5,1"]), ("d2", ["-1,5"]), ("d2'", ["1,-5"]), ("K", ["5,2"]),
    ("K'", ["-5,-2"]), ("k", ["2,5"]), ("k'", ["-2,-5"])
  ]

/-- The rules of the letter turns, as texts with single spaces between the words. -/
def letterRules : List (Text × Text) :=
  letterWords.map fun (letter, words) =>
    (pad letter.toList, pad (Text.joinWith ' ' (words.map String.toList)))

theorem letterRules_padded : ∀ key ∈ letterRules.map Prod.fst, isPadded key = true := by
  decide

/-- The table of the letter turns. -/
def letterTurns : Table :=
  Table.ofRules letterRules letterRules_padded

end SquareOne.Rewrite
