import SquareOne.Dictionary
import SquareOne.Fault
import SquareOne.Text.LowerCase

/-! Tables of shorthands: names for whole sequences of turns and swaps.

A name may stand for one sequence whatever the alignment, or for a sequence of its own under some of
the four alignments.
-/

namespace SquareOne.Shorthand

/-- The alignments that an entry holds for. -/
inductive Variant where
  | free
  | aligned (alignment : Alignment)
deriving DecidableEq, Repr

namespace Variant

/-- The suffix of the entry: empty for one that holds under every alignment. -/
def suffix : Variant → Text
  | .free => []
  | .aligned alignment => alignment.suffix

def all : List Variant :=
  [.free, .aligned ⟨false, false⟩, .aligned ⟨true, false⟩, .aligned ⟨false, true⟩,
    .aligned ⟨true, true⟩]

def ofSuffix? (suffix : Text) : Option Variant :=
  all.find? fun variant => variant.suffix = suffix

theorem ofSuffix?_suffix (variant : Variant) : ofSuffix? variant.suffix = some variant := by
  rcases variant with _ | ⟨top, bottom⟩
  · rfl
  · cases top <;> cases bottom <;> rfl

end Variant

structure Table where
  entries : Dictionary (Text × Variant) Text

namespace Table

/-- The table of the given names, suffixes and sequences, refused at the first suffix that names no
alignment. -/
def ofList (entries : List (Text × Text × Text)) : Except Fault Table := do
  let checked ← entries.mapM fun (name, suffix, fragment) =>
    match Variant.ofSuffix? suffix with
    | some variant => .ok ((name, variant), fragment)
    | none => .error (Fault.alignmentSuffix name suffix)
  return ⟨Dictionary.ofList checked⟩

/-- The sequence that `name` stands for under `alignment`. The case of the letters does not matter,
and an entry that holds under every alignment comes before the others. -/
def lookup (table : Table) (name : Text) (alignment : Alignment) : Except Fault Text :=
  let key := name.lower
  match table.entries.get? (key, .free) with
  | some fragment => .ok fragment
  | none =>
      match table.entries.get? (key, .aligned alignment) with
      | some fragment => .ok fragment
      | none => .error (.unknownShorthand name alignment)

def freeNames (table : Table) : List Text :=
  (table.entries.keys.filterMap fun (name, variant) =>
    if variant = .free then some name else none).mergeSort Text.precedes

/-- Names, suffixes and sequences, in the order of the names and then of the suffixes. -/
def sortedEntries (table : Table) : List (Text × Text × Text) :=
  (table.entries.entries.map fun ((name, variant), fragment) =>
    (name, variant.suffix, fragment)).mergeSort fun first second =>
      if first.1 = second.1 then first.2.1.precedes second.2.1 else first.1.precedes second.1

end Table

end SquareOne.Shorthand
