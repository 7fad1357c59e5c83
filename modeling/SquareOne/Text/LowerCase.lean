import SquareOne.Text.CaseTable

/-! Lower-casing of text.

Every character is mapped by itself, with two exceptions: the dotted capital I becomes two
characters, and a capital sigma becomes a final sigma where it ends a word.
-/

namespace SquareOne.Text

/-- The lower-case form of a character that has its own in one character, else the character. -/
def lowerChar (char : Char) : Char :=
  if char.toNat < 0x80 then char.toLower
  else
    match capitalRuns.find? fun run => run.contains char.toNat with
    | some run => Char.ofNat (char.toNat + run.offset).toNat
    | none => char

/-- Whether the first character that is not case-ignorable is cased. -/
def meetsCased : Text → Bool
  | [] => false
  | char :: rest =>
      if caseIgnorableRanges.contains char then meetsCased rest else casedRanges.contains char

/-- Lower-cases `rest`, given the characters `before` it from the nearest to the farthest. -/
def lowerAfter (before : Text) : Text → Text
  | [] => []
  | char :: rest =>
      let lowered :=
        if char = '\u0130' then ['i', '\u0307']
        else if char = '\u03A3' && meetsCased before && !meetsCased rest then ['\u03C2']
        else [lowerChar char]
      lowered ++ lowerAfter (char :: before) rest

def lower (text : Text) : Text :=
  lowerAfter [] text

theorem lower_singleton {char : Char} (undotted : char ≠ '\u0130') :
    lower [char] = [lowerChar char] := by
  simp [lower, lowerAfter, undotted, meetsCased]

theorem lowerChar_of_large {char : Char} (large : ¬char.toNat < 0x80) :
    lowerChar char = char ∨
      ∃ run ∈ capitalRuns, run.contains char.toNat = true ∧
        lowerChar char = Char.ofNat (char.toNat + run.offset).toNat := by
  rw [lowerChar, if_neg large]
  split
  · rename_i run found
    exact .inr ⟨run, List.mem_of_find?_eq_some found, by simpa using List.find?_some found, rfl⟩
  · exact .inl rfl

end SquareOne.Text
