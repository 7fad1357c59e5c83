import SquareOne.Colour.Sticker
import SquareOne.Proofs.Colour.Notation
import SquareOne.Proofs.Dictionary
import SquareOne.Proofs.Outcome

/-! The colour schemes that are accepted, and the colours that stickers get by them. A scheme has to
name faces only, and to give each of them nothing, transparency, or what is taken for a colour. A
sticker gets its override, an entry of the scheme or a standard colour, and so nothing else either.
-/

namespace SquareOne

namespace Face

theorem mem_all (face : Face) : face ∈ all := by
  cases face <;> decide

theorem ofName?_eq_none_iff {name : Text} :
    ofName? name = none ↔ ¬∃ face : Face, face.name = name := by
  simp [ofName?, mem_all]

theorem head?_name (face : Face) : face.name.head? ≠ some '#' := by
  cases face <;> decide

end Face

namespace Colour

theorem isTidy_transparent : IsTidy transparent :=
  ⟨Text.forall_mem_of_all (by decide), Text.forall_mem_of_all (by decide),
    Text.forall_mem_of_all (by decide), fun six => absurd six (by decide)⟩

theorem standard_eq_some {face : Face} {colour : Text} (found : standard face = some colour) :
    colour = transparent ∨ IsRgb colour := by
  cases face <;> cases found
  case circle => exact .inl rfl
  all_goals exact .inr (isRgb_of_all rfl rfl)

end Colour

namespace Scheme

open Colour (IsRgb IsTaken)

variable {scheme : Scheme} {fault : Fault}

/-- An entry gives a face no colour, or makes it transparent, or holds what counts as a colour. -/
def IsEntry (isColour : Text → Prop) : Option Text → Prop
  | none => True
  | some colour => colour = Colour.transparent ∨ isColour colour

structure ColouredBy (scheme : Scheme) (isColour : Text → Prop) : Prop where
  faces : ∀ name ∈ scheme.keys, ∃ face : Face, face.name = name
  entries : ∀ entry ∈ scheme.values, IsEntry isColour entry

theorem IsEntry.imp {entry : Option Text} {isColour isOther : Text → Prop}
    (holds : IsEntry isColour entry)
    (imp : ∀ colour, entry = some colour → isColour colour → isOther colour) :
    IsEntry isOther entry := by
  cases entry with
  | none => trivial
  | some colour => exact holds.imp_right (imp colour rfl)

theorem checkEntry_eq_ok_iff {entry : Option Text} :
    checkEntry entry = .ok () ↔ IsEntry IsTaken entry := by
  cases entry with
  | none => exact iff_of_true rfl trivial
  | some colour =>
      rw [checkEntry, IsEntry]
      split
      · rename_i transparent
        exact iff_of_true rfl (.inl transparent)
      · rename_i coloured
        rw [Colour.check_eq_ok_iff, or_iff_right coloured]

theorem checkEntry_eq_error {entry : Option Text} (refused : checkEntry entry = .error fault) :
    ∃ colour, entry = some colour ∧ ¬IsTaken colour ∧ fault = .colour colour := by
  cases entry with
  | none => cases refused
  | some colour =>
      rw [checkEntry] at refused
      split at refused
      · cases refused
      · exact ⟨colour, rfl, Colour.check_eq_error refused⟩

theorem unknownNames_isEmpty_iff :
    scheme.unknownNames.isEmpty = true ↔ ∀ name ∈ scheme.keys, ∃ face : Face, face.name = name := by
  rw [unknownNames, List.isEmpty_iff_length_eq_zero, List.length_mergeSort,
    List.length_eq_zero_iff, List.filter_eq_nil_iff]
  simp [Face.ofName?_eq_none_iff]

theorem check_eq_ok_iff : scheme.check = .ok () ↔ scheme.ColouredBy IsTaken := by
  rw [check]
  split
  · rename_i known
    rw [forM_eq_ok_iff]
    constructor
    · intro passed
      exact ⟨unknownNames_isEmpty_iff.mp known, fun entry member =>
        checkEntry_eq_ok_iff.mp (passed entry member)⟩
    · intro coloured entry member
      exact checkEntry_eq_ok_iff.mpr (coloured.entries entry member)
  · rename_i unknown
    refine ⟨fun passed => (nomatch passed), fun coloured => ?_⟩
    exact absurd (unknownNames_isEmpty_iff.mpr coloured.faces) unknown

/-- A scheme is refused for the names that are no faces, or else for the first entry that is not
taken for a colour. -/
theorem check_eq_error (refused : scheme.check = .error fault) :
    fault = .unknownFaces scheme.unknownNames ∨
      ∃ before colour after, scheme.values = before ++ some colour :: after ∧
        (∀ entry ∈ before, IsEntry IsTaken entry) ∧ ¬IsTaken colour ∧ fault = .colour colour := by
  rw [check] at refused
  split at refused
  · obtain ⟨before, entry, after, whole, passed, found⟩ := forM_eq_error refused
    obtain ⟨colour, rfl, untaken, named⟩ := checkEntry_eq_error found
    exact .inr ⟨before, colour, after, whole, fun other member =>
      checkEntry_eq_ok_iff.mp (passed other member), untaken, named⟩
  · cases refused
    exact .inl rfl

end Scheme

namespace Sticker

open Colour (IsRgb IsTaken)

variable {scheme : Scheme} {overrides : Dictionary Text (Option Text)} {id colour : Text}

/-- An entry that starts with a number sign is an override. -/
theorem mem_values_of_entry {sticker : Sticker}
    (marked : (sticker.entry overrides).head? = some '#') :
    some (sticker.entry overrides) ∈ overrides.values := by
  rw [entry] at marked ⊢
  cases found : (overrides.get? sticker.id).join with
  | none =>
      rw [found] at marked
      exact absurd marked sticker.face.head?_name
  | some override =>
      exact Dictionary.mem_values_of_get? (Option.join_eq_some_iff.mp found)

theorem colourOfEntry_eq_ok {entry : Text} (found : colourOfEntry entry scheme = .ok colour) :
    (colour = entry ∧ entry.head? = some '#' ∧ IsTaken entry) ∨
      some colour ∈ scheme.values ∨ ∃ face, Colour.standard face = some colour := by
  rw [colourOfEntry] at found
  split at found
  · rename_i marked
    obtain ⟨⟨⟩, checked, same⟩ := bind_eq_ok found
    cases same
    exact .inl ⟨rfl, marked, Colour.check_eq_ok_iff.mp checked⟩
  · split at found
    · cases found
    · rename_i face named
      split at found
      · rename_i shown given
        cases found
        rw [Scheme.colourOf?] at given
        cases listed : scheme.get? face.name with
        | none =>
            rw [listed] at given
            exact .inr (.inr ⟨face, given⟩)
        | some listing =>
            rw [listed, Option.getD_some] at given
            subst given
            exact .inr (.inl (Dictionary.mem_values_of_get? listed))
      · cases found

/-- The colour of a sticker is its override, or it comes from the scheme, or it is a standard one.
-/
theorem colour_eq_ok (found : Sticker.colour id scheme overrides = .ok colour) :
    scheme.check = .ok () ∧
      ((some colour ∈ overrides.values ∧ IsTaken colour) ∨ some colour ∈ scheme.values ∨
        ∃ face, Colour.standard face = some colour) := by
  obtain ⟨sticker, -, behind⟩ := bind_eq_ok found
  obtain ⟨⟨⟩, checked, last⟩ := bind_eq_ok behind
  refine ⟨checked, ?_⟩
  rcases colourOfEntry_eq_ok last with ⟨rfl, marked, taken⟩ | others
  · exact .inl ⟨mem_values_of_entry marked, taken⟩
  · exact .inr others

end Sticker

namespace Scheme

open Colour (IsRgb IsTaken IsTidy)

variable {scheme : Scheme}

/-- The schemes that keep to the notation are the tidy ones among those that are accepted. -/
theorem colouredBy_isRgb_iff :
    scheme.ColouredBy IsRgb ↔
      scheme.ColouredBy IsTaken ∧ ∀ colour, some colour ∈ scheme.values → IsTidy colour := by
  constructor
  · intro coloured
    refine ⟨⟨coloured.faces, fun entry member => (coloured.entries entry member).imp
      fun _ _ rgb => rgb.isTaken⟩, fun colour member => ?_⟩
    rcases coloured.entries (some colour) member with rfl | rgb
    · exact Colour.isTidy_transparent
    · exact rgb.isTidy
  · rintro ⟨coloured, tidy⟩
    refine ⟨coloured.faces, fun entry member => (coloured.entries entry member).imp ?_⟩
    rintro colour rfl taken
    exact Colour.isRgb_iff.mpr ⟨taken, tidy colour member⟩

/-- A scheme is accepted when its entries are taken for colours, and otherwise the argument is at
fault. Those that keep to the notation of colours are the accepted ones that are tidy. Stickers only
get what is taken for a colour, and by tidy schemes and overrides only colours in their notation.
-/
theorem check_iff_colouredBy (scheme : Scheme) :
    (scheme.check = .ok () ↔ scheme.ColouredBy IsTaken) ∧
      (∀ fault, scheme.check = .error fault → fault.kind = .badArgument) ∧
      (scheme.ColouredBy IsRgb ↔
        scheme.check = .ok () ∧ ∀ colour, some colour ∈ scheme.values → IsTidy colour) ∧
      ∀ id overrides colour, Sticker.colour id scheme overrides = .ok colour →
        (colour = Colour.transparent ∨ IsTaken colour) ∧
          ((∀ entry, some entry ∈ scheme.values → IsTidy entry) →
            (∀ entry, some entry ∈ overrides.values → IsTidy entry) →
              colour = Colour.transparent ∨ IsRgb colour) := by
  refine ⟨check_eq_ok_iff, ?_, by rw [check_eq_ok_iff, colouredBy_isRgb_iff], ?_⟩
  · intro fault refused
    rcases check_eq_error refused with rfl | ⟨before, colour, after, -, -, -, rfl⟩ <;> rfl
  · intro id overrides colour found
    obtain ⟨checked, ⟨override, taken⟩ | listed | ⟨face, standard⟩⟩ := Sticker.colour_eq_ok found
    · exact ⟨.inr taken, fun _ tidy => .inr (Colour.isRgb_iff.mpr ⟨taken, tidy colour override⟩)⟩
    · have coloured := check_eq_ok_iff.mp checked
      exact ⟨coloured.entries _ listed,
        fun tidy _ => (colouredBy_isRgb_iff.mpr ⟨coloured, tidy⟩).entries _ listed⟩
    · have known := Colour.standard_eq_some standard
      exact ⟨known.imp_right IsRgb.isTaken, fun _ _ => known⟩

/-- The overrides are checked like the scheme. -/
theorem check_iff_colouredBy_override :
    let scheme : Scheme := .ofList [("front".toList, some "#123456".toList), ("slice".toList, none)]
    let overrides : Dictionary Text (Option Text) :=
      .ofList [("4 inner".toList, some "#abcDEF".toList)]
    scheme.check = .ok () ∧
      Sticker.colour "4 inner".toList scheme overrides = .ok "#abcDEF".toList ∧
      ("#abcDEF".toList = Colour.transparent ∨ IsRgb "#abcDEF".toList) := by
  intro scheme overrides
  obtain ⟨-, -, exact, drawn⟩ := check_iff_colouredBy scheme
  have keys : scheme.keys = ["front".toList, "slice".toList] := rfl
  have entries : scheme.values = [some "#123456".toList, none] := rfl
  have coloured : scheme.ColouredBy IsRgb := by
    refine ⟨?_, ?_⟩
    · rw [keys]
      simpa using ⟨⟨.front, rfl⟩, ⟨.slice, rfl⟩⟩
    · rw [entries]
      simpa [IsEntry] using .inr (Colour.isRgb_of_all rfl rfl)
  obtain ⟨checked, tidy⟩ := exact.mp coloured
  have tidyOverrides : ∀ colour, some colour ∈ overrides.values → IsTidy colour := by
    intro colour member
    obtain rfl : colour = "#abcDEF".toList := by
      simpa [show overrides.values = [some "#abcDEF".toList] from rfl] using member
    exact (Colour.isRgb_of_all rfl rfl).isTidy
  have named : Sticker.ofId "4 inner".toList = .ok ⟨'4', "inner".toList, .top⟩ := rfl
  have found : Sticker.colour "4 inner".toList scheme overrides = .ok "#abcDEF".toList := by
    rw [Sticker.colour, bind_ok named, bind_ok checked]
    rfl
  exact ⟨checked, found, (drawn _ overrides _ found).2 tidy tidyOverrides⟩

/-- A pair may be a digit behind a sign, so that a scheme passes that is out of the notation. -/
theorem check_signs :
    let scheme : Scheme := .ofList [("top".toList, some "#-1-1-1".toList)]
    scheme.check = .ok () ∧ ¬scheme.ColouredBy IsRgb ∧
      Sticker.colour "4 inner".toList scheme .empty = .ok "#-1-1-1".toList ∧
      ¬IsRgb "#-1-1-1".toList := by
  intro scheme
  have keys : scheme.keys = ["top".toList] := rfl
  have entries : scheme.values = [some "#-1-1-1".toList] := rfl
  have taken : IsTaken "#-1-1-1".toList := Colour.isHex_iff.mp (by decide)
  have notRgb : ¬IsRgb "#-1-1-1".toList := fun rgb =>
    absurd (rgb.isTidy.noSign '-' (by decide)) (by decide)
  have checked : scheme.check = .ok () := by
    refine check_eq_ok_iff.mpr ⟨?_, ?_⟩
    · simpa [keys] using ⟨.top, rfl⟩
    · simpa [entries] using .inr taken
  have named : Sticker.ofId "4 inner".toList = .ok ⟨'4', "inner".toList, .top⟩ := rfl
  refine ⟨checked, fun coloured => ?_, ?_, notRgb⟩
  · rcases coloured.entries (some "#-1-1-1".toList) (by simp [entries]) with same | rgb
    · exact absurd same (by decide)
    · exact notRgb rgb
  · rw [Sticker.colour, bind_ok named, bind_ok checked]
    rfl

end Scheme

end SquareOne
