import SquareOne.Proofs.Outcome
import SquareOne.Proofs.Puzzle.SlotPermutation
import SquareOne.Proofs.Text.Trim
import SquareOne.Puzzle.Wire

/-! Wire forms of states whose symbols are hexadecimal digits in lower case. Reading accepts either
case and leaves only such states, and these read back from what they are written as.
-/

namespace SquareOne

namespace Text

def lowerHexDigits : Text :=
  "0123456789abcdef".toList

theorem lowerHexDigits_plain : ∀ digit ∈ lowerHexDigits,
    isHexDigit digit = true ∧ digit.toLower = digit ∧ isBlank digit = false ∧
      Separator.accepts digit = false :=
  forall_mem_of_all (by decide)

theorem toLower_mem_lowerHexDigits :
    ∀ digit ∈ hexAlphabet, digit.toLower ∈ lowerHexDigits :=
  forall_mem_of_all (by decide)

end Text

namespace Layer

theorem ofDigits_eq_ok {digits : Text} {full : digits.length = slotCount} {layer : Layer}
    (made : ofDigits digits full = .ok layer) :
    digits.all Text.isHexDigit = true ∧ layer.slots = digits.map Char.toLower := by
  rw [ofDigits] at made
  split at made
  · rename_i hex
    cases made
    exact ⟨hex, rfl⟩
  · cases made

/-- Digits in lower case are the symbols of the layer themselves. -/
theorem ofDigits_slots {layer : Layer}
    (hex : ∀ symbol ∈ layer.slots, symbol ∈ Text.lowerHexDigits) :
    ofDigits layer.slots layer.full = .ok layer := by
  have digits : layer.slots.all Text.isHexDigit = true :=
    List.all_eq_true.mpr fun symbol member =>
      (Text.lowerHexDigits_plain symbol (hex symbol member)).1
  have lower : layer.slots.map Char.toLower = layer.slots :=
    (List.map_congr_left fun symbol member =>
      (Text.lowerHexDigits_plain symbol (hex symbol member)).2.1).trans (List.map_id _)
  rw [ofDigits, if_pos digits]
  exact congrArg Except.ok (Layer.ext lower)

end Layer

namespace State

variable {state : State}

/-- Only hexadecimal digits in lower case stand in the slots. -/
def IsHex (state : State) : Prop :=
  ∀ symbol ∈ state.symbols, symbol ∈ Text.lowerHexDigits

theorem isHex_solved : solved.IsHex :=
  Text.forall_mem_of_all (by decide)

theorem isHex_applyAll (hex : state.IsHex) (moves : List Move) : (state.applyAll moves).IsHex :=
  fun symbol member => hex symbol ((state.symbols_applyAll moves).mem_iff.mp member)

/-- A wire form that is read has enough digits, and these in lower case fill both layers. -/
theorem parse_eq_ok {raw : Text} (read : parse raw = .ok state) :
    ∃ digits : Text, raw.trim.eraseP Separator.accepts = digits ∧ digits.length = 2 * slotCount ∧
      (∀ digit ∈ digits, digit ∈ Text.hexAlphabet) ∧
      state.top.slots = (digits.take slotCount).map Char.toLower ∧
      state.bottom.slots = (digits.drop slotCount).map Char.toLower := by
  simp only [parse] at read
  split at read
  · rename_i enough
    obtain ⟨top, topRead, behind⟩ := bind_eq_ok read
    obtain ⟨bottom, bottomRead, made⟩ := bind_eq_ok behind
    cases made
    obtain ⟨topHex, topSlots⟩ := Layer.ofDigits_eq_ok topRead
    obtain ⟨bottomHex, bottomSlots⟩ := Layer.ofDigits_eq_ok bottomRead
    refine ⟨_, rfl, enough, ?_, topSlots, bottomSlots⟩
    intro digit member
    rw [← List.take_append_drop slotCount (raw.trim.eraseP Separator.accepts)] at member
    rcases List.mem_append.mp member with inTop | inBottom
    · exact Text.isHexDigit_iff.mp (List.all_eq_true.mp topHex digit inTop)
    · exact Text.isHexDigit_iff.mp (List.all_eq_true.mp bottomHex digit inBottom)
  · cases read

/-- Whatever case the digits are read in, they are kept in lower case. -/
theorem isHex_of_parse {raw : Text} (read : parse raw = .ok state) : state.IsHex := by
  obtain ⟨digits, -, -, hex, top, bottom⟩ := parse_eq_ok read
  have symbols : state.symbols = digits.map Char.toLower := by
    rw [State.symbols, top, bottom, ← List.map_append, List.take_append_drop]
  intro symbol member
  rw [symbols] at member
  obtain ⟨digit, digitMember, rfl⟩ := List.mem_map.mp member
  exact Text.toLower_mem_lowerHexDigits digit (hex digit digitMember)

theorem parse_render (hex : state.IsHex) (separator : Separator) :
    parse (state.render separator) = .ok state := by
  have topHex : ∀ symbol ∈ state.top.slots, symbol ∈ Text.lowerHexDigits :=
    fun symbol member => hex symbol (List.mem_append_left _ member)
  have bottomHex : ∀ symbol ∈ state.bottom.slots, symbol ∈ Text.lowerHexDigits :=
    fun symbol member => hex symbol (List.mem_append_right _ member)
  have solid : ∀ char ∈ state.render separator, Text.isBlank char = false := by
    intro char member
    rw [render, List.mem_append, List.mem_cons] at member
    rcases member with inTop | rfl | inBottom
    · exact (Text.lowerHexDigits_plain char (topHex char inTop)).2.2.1
    · cases separator <;> decide
    · exact (Text.lowerHexDigits_plain char (bottomHex char inBottom)).2.2.1
  have digits : (state.render separator).trim.eraseP Separator.accepts = state.symbols := by
    have separates : Separator.accepts separator.char = true := by
      cases separator <;> rfl
    have noSeparator : ∀ symbol ∈ state.top.slots, ¬Separator.accepts symbol = true := by
      intro symbol member
      rw [(Text.lowerHexDigits_plain symbol (topHex symbol member)).2.2.2]
      exact Bool.false_ne_true
    rw [Text.trim_of_solid solid, render, List.eraseP_append_right _ noSeparator,
      List.eraseP_cons_of_pos separates]
    rfl
  have enough : state.symbols.length = 2 * slotCount := by
    rw [symbols, List.length_append, state.top.full, state.bottom.full]
    rfl
  have front : state.symbols.take slotCount = state.top.slots := List.take_left' state.top.full
  have back : state.symbols.drop slotCount = state.bottom.slots := List.drop_left' state.top.full
  simp only [parse, digits, front, back, enough, Layer.ofDigits_slots topHex,
    Layer.ofDigits_slots bottomHex]
  rfl

end State

end SquareOne
