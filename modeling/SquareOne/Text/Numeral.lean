import SquareOne.Text.Basic

/-! Signed decimal numerals over the ASCII digits.

`Numeral.read?` takes an optional sign and at least one digit, leading zeros included;
`Numeral.write` gives the shortest numeral, and reading it gives the number back.
-/

namespace SquareOne.Numeral

/-- A non-empty run of the digits 0 to 9. -/
def isDigits (text : Text) : Bool :=
  !text.isEmpty && text.all Char.isDigit

def readDigits? (text : Text) : Option Nat :=
  if isDigits text then some (Nat.ofDigitChars 10 text 0) else none

/-- The number a text names, if it is an optional sign before a run of digits. -/
def read? : Text → Option Int
  | '+' :: digits => (readDigits? digits).map Int.ofNat
  | '-' :: digits => (readDigits? digits).map fun magnitude => -Int.ofNat magnitude
  | digits => (readDigits? digits).map Int.ofNat

/-- The numeral without leading zeros; only negative numbers carry a sign. -/
def write : Int → Text
  | .ofNat magnitude => Nat.toDigits 10 magnitude
  | .negSucc below => '-' :: Nat.toDigits 10 (below + 1)

theorem isDigits_toDigits (value : Nat) : isDigits (Nat.toDigits 10 value) = true := by
  simp only [isDigits, Bool.and_eq_true, Bool.not_eq_true', List.isEmpty_eq_false_iff,
    List.all_eq_true]
  exact ⟨Nat.toDigits_ne_nil, fun _ member =>
    Nat.isDigit_of_mem_toDigits (b := 10) (by decide) (by decide) member⟩

theorem readDigits?_toDigits (value : Nat) :
    readDigits? (Nat.toDigits 10 value) = some value := by
  simp [readDigits?, isDigits_toDigits, Nat.ofDigitChars_toDigits]

theorem read?_of_isDigits {text : Text} (digits : isDigits text = true) :
    read? text = (readDigits? text).map Int.ofNat := by
  unfold read?
  split
  · simp [isDigits] at digits
  · simp [isDigits] at digits
  · rfl

theorem read?_write (value : Int) : read? (write value) = some value := by
  cases value with
  | ofNat magnitude =>
      simp [write, read?_of_isDigits (isDigits_toDigits magnitude), readDigits?_toDigits]
  | negSucc below =>
      simp [write, read?, readDigits?_toDigits, Int.negSucc_eq]

end SquareOne.Numeral
