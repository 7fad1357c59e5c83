import Mathlib.Data.List.Basic
import Mathlib.Dynamics.FixedPoints.Basic
import SquareOne.Rewrite.Fixpoint

/-! Passes of any table, whatever its keys, and runs of passes until one changes nothing.

A pass keeps a character or puts a replacement in the place of a key, and goes on behind it. When all
replacements start and end with a space, so does every text that a pass makes of such a text. The
spaces that are taken off a settled text are then the ones that rewriting would set it between, so
that rewriting it again starts from a fixed point.
-/

namespace SquareOne.Rewrite

/-- A text that starts and ends with a space, which may be the same one. -/
structure IsEdged (text : Text) : Prop where
  starts : text.head? = some ' '
  ends : text.getLast? = some ' '

instance : DecidablePred IsEdged := fun text =>
  decidable_of_iff (text.head? = some ' ' ∧ text.getLast? = some ' ')
    ⟨fun both => ⟨both.1, both.2⟩, fun edged => ⟨edged.starts, edged.ends⟩⟩

theorem isEdged_pad (text : Text) : IsEdged (pad text) where
  starts := rfl
  ends := List.getLast?_concat ..

theorem unpad_pad (text : Text) : ((pad text).drop 1).dropLast = text := by
  simp [pad]

theorem IsEdged.eq_space_or_pad {text : Text} (edged : IsEdged text) :
    text = [' '] ∨ ∃ inner, text = pad inner := by
  obtain ⟨inner, rfl⟩ := List.getLast?_eq_some_iff.mp edged.ends
  cases inner with
  | nil => exact .inl rfl
  | cons char inner =>
      obtain rfl : char = ' ' := by simpa using edged.starts
      exact .inr ⟨inner, rfl⟩

namespace Table

variable {table : Table} {subject key replacement rest : Text} {char : Char}

/-- Every replacement starts and ends with a space. -/
def KeepsEdges (table : Table) : Prop :=
  ∀ rule ∈ table.rules.entries, IsEdged rule.2

instance (table : Table) : Decidable table.KeepsEdges :=
  inferInstanceAs (Decidable (∀ rule ∈ table.rules.entries, IsEdged rule.2))

section Matching

theorem isPadded_of_mem {rule : Text × Text} (member : rule ∈ table.rules.entries) :
    isPadded rule.1 = true :=
  table.padded rule.1 (List.mem_map_of_mem member)

theorem match?_eq_some (found : table.match? subject = some (key, replacement)) :
    (key, replacement) ∈ table.rules.entries ∧ key <+: subject := by
  have member := List.maxOn?_mem found
  rw [List.mem_filter, List.isPrefixOf_iff_prefix] at member
  exact member

theorem match?_eq_none (absent : ∀ rule ∈ table.rules.entries, ¬rule.1 <+: subject) :
    table.match? subject = none := by
  have nothing : table.rules.entries.filter (fun rule => rule.1.isPrefixOf subject) = [] :=
    List.filter_eq_nil_iff.mpr fun rule member isPrefix =>
      absent rule member (List.isPrefixOf_iff_prefix.mp isPrefix)
  rw [match?, nothing]
  rfl

theorem match?_congr {other : Text}
    (same : ∀ rule ∈ table.rules.entries, rule.1 <+: subject ↔ rule.1 <+: other) :
    table.match? subject = table.match? other := by
  have filtered : table.rules.entries.filter (fun rule => rule.1.isPrefixOf subject) =
      table.rules.entries.filter fun rule => rule.1.isPrefixOf other :=
    List.filter_congr fun rule member => by
      rw [Bool.eq_iff_iff, List.isPrefixOf_iff_prefix, List.isPrefixOf_iff_prefix]
      exact same rule member
  rw [match?, filtered]
  rfl

theorem match?_of_ne_space (table : Table) (other : char ≠ ' ') (rest : Text) :
    table.match? (char :: rest) = none := by
  refine match?_eq_none fun rule member isPrefix => other ?_
  have padded := isPadded_of_mem member
  obtain ⟨behind, whole⟩ := isPrefix
  cases key : rule.1 with
  | nil => simp [key, isPadded] at padded
  | cons first others =>
      simp only [key, isPadded, List.head?_cons, Bool.and_eq_true, beq_iff_eq] at padded
      rw [key, List.cons_append, List.cons.injEq] at whole
      rw [← whole.1]
      exact Option.some.inj padded.1.2

theorem match?_of_short (table : Table) (short : subject.length < 3) :
    table.match? subject = none := by
  refine match?_eq_none fun rule member isPrefix => ?_
  have padded := isPadded_of_mem member
  have fits := isPrefix.length_le
  simp only [isPadded, Bool.and_eq_true, decide_eq_true_eq] at padded
  omega

end Matching

section Pass

theorem passAfter_length (table : Table) (taken rest : Text) :
    table.passAfter taken.length (taken ++ rest) = table.passAfter 0 rest := by
  induction taken with
  | nil => rfl
  | cons char taken ih => simpa [passAfter] using ih

@[simp] theorem pass_nil (table : Table) : table.pass [] = [] := rfl

theorem pass_kept (unmatched : table.match? (char :: rest) = none) :
    table.pass (char :: rest) = char :: table.pass rest := by
  rw [pass, passAfter, unmatched]
  rfl

theorem pass_replaced (matched : table.match? (key ++ rest) = some (key, replacement)) :
    table.pass (key ++ rest) = replacement ++ table.pass rest := by
  have padded := isPadded_of_mem (match?_eq_some matched).1
  cases key with
  | nil => simp [isPadded] at padded
  | cons first others =>
      rw [List.cons_append] at matched ⊢
      rw [pass, passAfter, matched]
      exact congrArg (replacement ++ ·) (passAfter_length table others rest)

/-- The way a pass goes through a text: it ends, or it keeps a character, or it replaces a key. -/
@[elab_as_elim]
theorem passInduction (table : Table) {motive : Text → Prop} (nil : motive [])
    (kept : ∀ char rest, table.match? (char :: rest) = none → motive rest → motive (char :: rest))
    (replaced : ∀ key replacement rest, table.match? (key ++ rest) = some (key, replacement) →
      motive rest → motive (key ++ rest)) (subject : Text) : motive subject := by
  induction size : subject.length using Nat.strong_induction_on generalizing subject with
  | _ size ih =>
      subst size
      cases found : table.match? subject with
      | none =>
          cases subject with
          | nil => exact nil
          | cons char rest => exact kept char rest found (ih _ (Nat.lt_succ_self _) rest rfl)
      | some rule =>
          obtain ⟨member, rest, rfl⟩ := match?_eq_some found
          have padded := isPadded_of_mem member
          have shorter : rest.length < (rule.1 ++ rest).length := by
            simp only [isPadded, Bool.and_eq_true, decide_eq_true_eq] at padded
            rw [List.length_append]
            omega
          exact replaced rule.1 rule.2 rest found (ih _ shorter rest rfl)

/-- Nothing happens inside a word, since every key starts with a space. -/
theorem pass_word_append (table : Table) {word : Text} (isWord : ' ' ∉ word) (rest : Text) :
    table.pass (word ++ rest) = word ++ table.pass rest := by
  induction word with
  | nil => rfl
  | cons char word ih =>
      simp only [List.mem_cons, not_or] at isWord
      have unmatched := table.match?_of_ne_space (fun same => isWord.1 same.symm) (word ++ rest)
      rw [List.cons_append, pass_kept unmatched, ih isWord.2, List.cons_append]

theorem pass_of_short (table : Table) (short : subject.length < 3) :
    table.pass subject = subject := by
  induction subject with
  | nil => rfl
  | cons char rest ih =>
      rw [List.length_cons] at short
      rw [pass_kept (table.match?_of_short short), ih (by omega)]

theorem pass_ne_nil (keeps : table.KeepsEdges) (nonempty : subject ≠ []) :
    table.pass subject ≠ [] := by
  induction subject using table.passInduction with
  | nil => contradiction
  | kept char rest unmatched => rw [pass_kept unmatched]; exact List.cons_ne_nil _ _
  | replaced key replacement rest matched =>
      have edged := keeps _ (match?_eq_some matched).1
      rw [pass_replaced matched]
      rintro empty
      obtain rfl := (List.append_eq_nil_iff.mp empty).1
      cases edged.starts

theorem head?_pass (keeps : table.KeepsEdges) (starts : subject.head? = some ' ') :
    (table.pass subject).head? = some ' ' := by
  induction subject using table.passInduction with
  | nil => cases starts
  | kept char rest unmatched => rwa [pass_kept unmatched]
  | replaced key replacement rest matched =>
      have edged := keeps _ (match?_eq_some matched).1
      rw [pass_replaced matched, List.head?_append, edged.starts]
      rfl

theorem getLast?_pass (keeps : table.KeepsEdges) (ends : subject.getLast? = some ' ') :
    (table.pass subject).getLast? = some ' ' := by
  -- What stands last is kept or replaced itself; otherwise the rest of the text is not empty.
  induction subject using table.passInduction with
  | nil => cases ends
  | kept char rest unmatched ih =>
      rw [pass_kept unmatched]
      cases rest with
      | nil => exact ends
      | cons next rest =>
          rw [List.getLast?_cons, ih ends]
          rfl
  | replaced key replacement rest matched ih =>
      have edged := keeps _ (match?_eq_some matched).1
      rw [pass_replaced matched, List.getLast?_append]
      cases rest with
      | nil => exact edged.ends
      | cons next rest =>
          rw [List.getLast?_append_of_ne_nil _ (List.cons_ne_nil next rest)] at ends
          rw [ih ends]
          rfl

theorem isEdged_pass (keeps : table.KeepsEdges) (edged : IsEdged subject) :
    IsEdged (table.pass subject) :=
  ⟨head?_pass keeps edged.starts, getLast?_pass keeps edged.ends⟩

theorem isEdged_iterate_pass (keeps : table.KeepsEdges) (edged : IsEdged subject) (count : Nat) :
    IsEdged (table.pass^[count] subject) := by
  induction count with
  | zero => exact edged
  | succ count ih => rw [Function.iterate_succ_apply']; exact isEdged_pass keeps ih

end Pass

section Settling

/-- Settling means that some number of passes leads to a fixed point, with one pass left to see that
it is one. -/
theorem settle?_eq_some_iff {passes : Nat} {settled : Text} :
    table.settle? passes subject = some settled ↔
      ∃ count < passes, table.pass^[count] subject = settled ∧
        Function.IsFixedPt table.pass settled := by
  induction passes generalizing subject with
  | zero => simp [settle?]
  | succ passes ih =>
      rw [settle?]
      by_cases fixed : table.pass subject = subject
      · rw [if_pos fixed]
        constructor
        · rintro ⟨rfl⟩
          exact ⟨0, Nat.succ_pos passes, rfl, fixed⟩
        · rintro ⟨count, -, rfl, -⟩
          rw [Function.iterate_fixed fixed]
      · rw [if_neg fixed, ih]
        constructor
        · rintro ⟨count, within, reached, settledFixed⟩
          exact ⟨count + 1, Nat.succ_lt_succ within, reached, settledFixed⟩
        · rintro ⟨count, within, reached, settledFixed⟩
          cases count with
          | zero =>
              obtain rfl : subject = settled := reached
              exact absurd settledFixed fixed
          | succ count => exact ⟨count, Nat.lt_of_succ_lt_succ within, reached, settledFixed⟩

theorem rewriteWithin_of_no_rule (noRule : table.rules.size = 0) (passes : Int) (text : Text) :
    table.rewriteWithin passes text = .ok text :=
  if_pos noRule

theorem rewriteWithin_eq_ok_iff {passes : Int} {text result : Text}
    (someRule : table.rules.size ≠ 0) :
    table.rewriteWithin passes text = .ok result ↔
      ∃ settled, table.settle? passes.toNat (pad text) = some settled ∧
        (settled.drop 1).dropLast = result := by
  rw [rewriteWithin, if_neg someRule]
  cases table.settle? passes.toNat (pad text) <;> simp

/-- A text that rewriting returns is settled between its two spaces. -/
theorem isFixedPt_of_rewriteWithin (keeps : table.KeepsEdges) (someRule : table.rules.size ≠ 0)
    {passes : Int} {text result : Text} (rewritten : table.rewriteWithin passes text = .ok result) :
    Function.IsFixedPt table.pass (pad result) := by
  obtain ⟨settled, settles, rfl⟩ := (rewriteWithin_eq_ok_iff someRule).mp rewritten
  obtain ⟨count, -, rfl, fixed⟩ := settle?_eq_some_iff.mp settles
  rcases (isEdged_iterate_pass keeps (isEdged_pad text) count).eq_space_or_pad with
    single | ⟨inner, padded⟩
  · rw [single]
    exact table.pass_of_short (by decide)
  · rwa [padded, unpad_pad, ← padded]

/-- What rewriting returns does not depend on how many passes it was allowed, and is not changed by
rewriting it again, even if the replacements lead back to each other or make the text shorter than
it was between its spaces. -/
theorem rewriteWithin_stable (keeps : table.KeepsEdges) {passes : Int} {text result : Text}
    (rewritten : table.rewriteWithin passes text = .ok result) :
    (∀ more, passes ≤ more → table.rewriteWithin more text = .ok result) ∧
      ∀ again, 1 ≤ again → table.rewriteWithin again result = .ok result := by
  by_cases noRule : table.rules.size = 0
  · rw [rewriteWithin_of_no_rule noRule] at rewritten
    cases rewritten
    exact ⟨fun more _ => rewriteWithin_of_no_rule noRule more text,
      fun again _ => rewriteWithin_of_no_rule noRule again text⟩
  · have fixed := isFixedPt_of_rewriteWithin keeps noRule rewritten
    obtain ⟨settled, settles, unpadded⟩ := (rewriteWithin_eq_ok_iff noRule).mp rewritten
    obtain ⟨count, within, reached⟩ := settle?_eq_some_iff.mp settles
    constructor
    · intro more enough
      refine (rewriteWithin_eq_ok_iff noRule).mpr ⟨settled, ?_, unpadded⟩
      exact settle?_eq_some_iff.mpr ⟨count, by omega, reached⟩
    · intro again enough
      refine (rewriteWithin_eq_ok_iff noRule).mpr ⟨pad result, ?_, unpad_pad result⟩
      exact settle?_eq_some_iff.mpr ⟨0, by omega, rfl, fixed⟩

/-- Two words that are rewritten to each other, and a pair of words that is rewritten to nothing. -/
def circling : Table :=
  Table.ofRules
    [(" x ".toList, " y ".toList), (" y ".toList, " x ".toList), (" a b ".toList, " ".toList)]
    (by decide)

theorem rewriteWithin_stable_circling :
    circling.KeepsEdges ∧ circling.rewriteWithin 2 "a b".toList = .ok [] ∧
      circling.rewriteWithin 64 "a b".toList = .ok [] ∧ circling.rewriteWithin 1 [] = .ok [] ∧
      circling.rewriteWithin 64 "x".toList = .error (.unsettled 64) := by
  have keeps : circling.KeepsEdges := by decide
  have rewritten : circling.rewriteWithin 2 "a b".toList = .ok [] := by decide
  have stable := rewriteWithin_stable keeps rewritten
  exact ⟨keeps, rewritten, stable.1 64 (by decide), stable.2 1 (by decide), by decide⟩

end Settling

end Table

end SquareOne.Rewrite
