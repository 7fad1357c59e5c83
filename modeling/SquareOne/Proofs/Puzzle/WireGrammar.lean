import SquareOne.Proofs.Puzzle.WireForm
import SquareOne.Proofs.Scramble.Refusals

/-! Which texts are wire forms. Between blanks such a text holds twenty-four hexadecimal digits of
either case and one separator at most, which may stand anywhere among them. These texts are read and
all others are refused as malformed.
-/

namespace SquareOne

namespace Separator

/-- Relates digits to the texts that hold just them and one separator at most, which may stand before
them, between any two of them or behind them. -/
inductive MayPart : Text → Text → Prop
  | joined (digits : Text) : MayPart digits digits
  | parted (front : Text) (separator : Separator) (back : Text) :
      MayPart (front ++ back) (front ++ separator.char :: back)

theorem accepts_char (separator : Separator) : accepts separator.char = true := by
  cases separator <;> rfl

theorem exists_of_accepts {char : Char} (separates : accepts char = true) :
    ∃ separator : Separator, separator.char = char := by
  simp only [accepts, Bool.or_eq_true, beq_iff_eq] at separates
  rcases separates with rfl | rfl
  · exact ⟨.bar, rfl⟩
  · exact ⟨.slash, rfl⟩

theorem mayPart_eraseP (text : Text) : MayPart (text.eraseP accepts) text := by
  rcases List.exists_or_eq_self_of_eraseP accepts text with
    same | ⟨char, front, back, -, separates, whole, erased⟩
  · rw [same]
    exact .joined text
  · obtain ⟨separator, rfl⟩ := exists_of_accepts separates
    rw [erased, whole]
    exact .parted front separator back

theorem MayPart.eraseP_eq {digits text : Text} (parts : MayPart digits text)
    (plain : ∀ digit ∈ digits, ¬accepts digit = true) : text.eraseP accepts = digits := by
  cases parts with
  | joined => exact List.eraseP_of_forall_not plain
  | parted front separator back =>
      have noneBefore : ∀ digit ∈ front, ¬accepts digit = true :=
        fun digit member => plain digit (List.mem_append_left back member)
      rw [List.eraseP_append_right _ noneBefore, List.eraseP_cons_of_pos separator.accepts_char]

end Separator

theorem Text.hexAlphabet_plain :
    ∀ digit ∈ Text.hexAlphabet, ¬Separator.accepts digit = true :=
  Text.forall_mem_of_all (by decide)

/-- The text is a wire form of the digits, twelve for each layer. -/
structure IsWireForm (digits text : Text) : Prop where
  count : digits.length = 24
  hex : ∀ digit ∈ digits, digit ∈ "0123456789abcdefABCDEF".toList
  parts : Separator.MayPart digits text

theorem IsWireForm.eraseP_eq {digits text : Text} (form : IsWireForm digits text) :
    text.eraseP Separator.accepts = digits :=
  form.parts.eraseP_eq fun digit member => Text.hexAlphabet_plain digit (form.hex digit member)

namespace Layer

theorem ofDigits_of_hex {digits : Text} (full : digits.length = slotCount)
    (hex : ∀ digit ∈ digits, digit ∈ Text.hexAlphabet) :
    ofDigits digits full = .ok ⟨digits.map Char.toLower, by simpa using full⟩ :=
  if_pos (List.all_eq_true.mpr fun digit member => Text.isHexDigit_iff.mpr (hex digit member))

end Layer

namespace State

variable {raw digits : Text} {state : State} {fault : Fault}

theorem isWireForm_of_parse (read : parse raw = .ok state) :
    ∃ digits, IsWireForm digits raw.trim ∧
      state.top.slots = (digits.take 12).map Char.toLower ∧
      state.bottom.slots = (digits.drop 12).map Char.toLower := by
  obtain ⟨digits, erased, count, hex, layers⟩ := parse_eq_ok read
  refine ⟨digits, ⟨count, hex, ?_⟩, layers⟩
  rw [← erased]
  exact Separator.mayPart_eraseP raw.trim

theorem exists_parse_of_isWireForm (form : IsWireForm digits raw.trim) :
    ∃ state, parse raw = .ok state := by
  have enough : (raw.trim.eraseP Separator.accepts).length = 2 * slotCount := by
    rw [form.eraseP_eq, form.count]
    rfl
  have hex : ∀ digit ∈ raw.trim.eraseP Separator.accepts, digit ∈ Text.hexAlphabet := by
    rw [form.eraseP_eq]
    exact form.hex
  have layer : ∀ (part : Text) (full : part.length = slotCount),
      (∀ digit ∈ part, digit ∈ raw.trim.eraseP Separator.accepts) →
      ∃ layer, Layer.ofDigits part full = .ok layer := fun part full within =>
    ⟨_, Layer.ofDigits_of_hex full fun digit member => hex digit (within digit member)⟩
  obtain ⟨top, topRead⟩ := layer ((raw.trim.eraseP Separator.accepts).take slotCount)
    (by simp [enough]; decide) fun _ => List.mem_of_mem_take
  obtain ⟨bottom, bottomRead⟩ := layer ((raw.trim.eraseP Separator.accepts).drop slotCount)
    (by simp [enough]; decide) fun _ => List.mem_of_mem_drop
  simp only [parse, dif_pos enough, topRead, bottomRead]
  exact ⟨_, rfl⟩

/-- The digits of a wire form in lower case are the symbols of the state that is read. -/
theorem parse_eq_ok_iff :
    parse raw = .ok state ↔
      ∃ digits, IsWireForm digits raw.trim ∧
        state.top.slots = (digits.take 12).map Char.toLower ∧
        state.bottom.slots = (digits.drop 12).map Char.toLower := by
  constructor
  · exact isWireForm_of_parse
  · rintro ⟨digits, form, top, bottom⟩
    obtain ⟨found, read⟩ := exists_parse_of_isWireForm form
    obtain ⟨others, otherForm, foundTop, foundBottom⟩ := isWireForm_of_parse read
    -- A text is a wire form of no other digits, and these fill both layers.
    obtain rfl : others = digits := otherForm.eraseP_eq.symm.trans form.eraseP_eq
    have same : found = state :=
      State.ext (Layer.ext (foundTop.trans top.symm)) (Layer.ext (foundBottom.trans bottom.symm))
    rw [read, same]

/-- The texts that are read are the wire forms between blanks, and what is read are their digits in
lower case. Every other text is malformed. What has been read is written in a form that reads back.
-/
theorem parse_iff_isWireForm (raw : Text) :
    (∀ state, parse raw = .ok state ↔
      ∃ digits, IsWireForm digits raw.trim ∧
        state.top.slots = (digits.take 12).map Char.toLower ∧
        state.bottom.slots = (digits.drop 12).map Char.toLower) ∧
      ((∃ state, parse raw = .ok state) ↔ ∃ digits, IsWireForm digits raw.trim) ∧
      (∀ fault, parse raw = .error fault → fault.kind = .malformedState) ∧
      ∀ state separator, parse raw = .ok state → parse (state.render separator) = .ok state := by
  refine ⟨fun state => parse_eq_ok_iff, ⟨?_, ?_⟩, ?_, ?_⟩
  · rintro ⟨state, read⟩
    obtain ⟨digits, form, -⟩ := isWireForm_of_parse read
    exact ⟨digits, form⟩
  · rintro ⟨digits, form⟩
    exact exists_parse_of_isWireForm form
  · intro fault refused
    rcases parse_eq_error refused with ⟨found, rfl⟩ | ⟨layer, rfl⟩ <;> rfl
  · intro state separator read
    exact parse_render (isHex_of_parse read) separator

/-- The separator may stand in front of all digits. -/
theorem parse_iff_isWireForm_front :
    ∃ state, parse "\t|011233998BBA455677ddcffe ".toList = .ok state ∧
      state.top.slots = "011233998bba".toList ∧ state.bottom.slots = "455677ddcffe".toList ∧
      parse (state.render .slash) = .ok state := by
  obtain ⟨readable, -, -, again⟩ := parse_iff_isWireForm "\t|011233998BBA455677ddcffe ".toList
  have form : IsWireForm "011233998BBA455677ddcffe".toList
      (Text.trim "\t|011233998BBA455677ddcffe ".toList) :=
    ⟨rfl, Text.forall_mem_of_all (by decide), .parted [] .bar _⟩
  have read := (readable State.solved.swapHalves).mpr ⟨_, form, by decide, by decide⟩
  exact ⟨_, read, rfl, rfl, again _ .slash read⟩

end State

end SquareOne
