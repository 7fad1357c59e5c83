import SquareOne.Proofs.Rewrite.Passes
import SquareOne.Proofs.Text.Cuts

/-! Words that no key of a table mentions, though replacements may bring in more of them.

No match reaches into such a word or across it, so that a pass goes through the texts on its two
sides as if each stood alone. A pass over the whole changes nothing only if it changes neither side:
otherwise one side would lose the word for good to the other, while no pass ever loses one.
-/

namespace SquareOne.Rewrite.Table

variable {table : Table} {word front behind : Text}

structure Unmentioned (table : Table) (word : Text) : Prop where
  nonempty : word ≠ []
  isWord : ' ' ∉ word
  absent : ∀ key ∈ table.rules.keys, word ∉ key.splitOn ' '

/-- What starts with a word, or in it, and has a space goes on behind the word. -/
theorem exists_past_word {more rest : Text} (isWord : ' ' ∉ word) (space : ' ' ∈ more)
    (same : word ++ behind = more ++ rest) :
    ∃ between, between ≠ [] ∧ more = word ++ between ∧ behind = between ++ rest := by
  obtain ⟨between, rfl, rfl⟩ | ⟨between, rfl, -⟩ := List.append_eq_append_iff.mp same
  · refine ⟨between, ?_, rfl, rfl⟩
    rintro rfl
    exact isWord (by simpa using space)
  · exact absurd (List.mem_append_left _ space) isWord

/-- A text cut at the same word in two ways: what the one way has more in front, the other has more
behind, and the word once more beside it. -/
theorem exists_between {longer later : Text} (isWord : ' ' ∉ word) (longerEdged : IsEdged longer)
    (behindEdged : IsEdged behind) (shorter : front.length < longer.length)
    (same : front ++ (word ++ behind) = longer ++ (word ++ later)) :
    ∃ between, IsEdged between ∧ longer = front ++ (word ++ between) ∧
      behind = between ++ (word ++ later) := by
  obtain ⟨more, rfl, rest⟩ | ⟨more, rfl, -⟩ := List.append_eq_append_iff.mp same
  · have someMore : more ≠ [] := by
      rintro rfl
      simp at shorter
    have ends := longerEdged.ends
    rw [List.getLast?_append_of_ne_nil front someMore] at ends
    obtain ⟨between, nonempty, rfl, rfl⟩ :=
      exists_past_word isWord (List.mem_of_getLast? ends) rest
    have starts := behindEdged.starts
    rw [List.head?_append_of_ne_nil between nonempty] at starts
    rw [List.getLast?_append_of_ne_nil word nonempty] at ends
    exact ⟨between, ⟨starts, ends⟩, rfl, rfl⟩
  · rw [List.length_append] at shorter
    omega

/-- A text that loses characters in a pass, and in every pass from then on, does not exist. -/
theorem not_always_shorter (table : Table) (property : Text → Prop)
    (falls : ∀ text, property text →
      property (table.pass text) ∧ (table.pass text).length < text.length)
    (text : Text) : ¬property text := by
  intro holds
  induction size : text.length using Nat.strong_induction_on generalizing text with
  | _ bound ih =>
      obtain ⟨next, shorter⟩ := falls text holds
      exact ih _ (size ▸ shorter) (table.pass text) next rfl

namespace Unmentioned

/-- A key that starts in front of the word ends there, too. -/
theorem isPrefix_append_iff (unmentioned : table.Unmentioned word) {key : Text}
    (member : key ∈ table.rules.keys) (ends : front.getLast? = some ' ')
    (starts : behind.head? = some ' ') :
    key <+: front ++ (word ++ behind) ↔ key <+: front := by
  refine ⟨fun isPrefix => ?_, fun isPrefix => isPrefix.trans (List.prefix_append _ _)⟩
  have padded := table.padded key member
  simp only [isPadded, Bool.and_eq_true, beq_iff_eq] at padded
  obtain ⟨rest, whole⟩ := isPrefix
  obtain ⟨more, rfl, across⟩ | ⟨more, rfl, -⟩ := List.append_eq_append_iff.mp whole.symm
  · by_cases noMore : more = []
    · exact ⟨[], by rw [noMore, List.append_nil, List.append_nil]⟩
    · -- A key that reached beyond the front would have the word between two of its spaces.
      have keyEnds := padded.2
      rw [List.getLast?_append_of_ne_nil front noMore] at keyEnds
      obtain ⟨between, nonempty, rfl, rfl⟩ :=
        exists_past_word unmentioned.isWord (List.mem_of_getLast? keyEnds) across
      obtain ⟨char, others, rfl⟩ := List.exists_cons_of_ne_nil nonempty
      obtain rfl : char = ' ' := by simpa using starts
      obtain ⟨earlier, rfl⟩ := List.getLast?_eq_some_iff.mp ends
      refine absurd ?_ (unmentioned.absent _ member)
      rw [List.append_assoc, List.cons_append, List.nil_append, List.splitOn_append_cons_self,
        List.splitOn_append_cons_self_of_not_mem unmentioned.isWord]
      simp
  · exact List.prefix_append key more

theorem match?_append (unmentioned : table.Unmentioned word) (ends : front.getLast? = some ' ')
    (starts : behind.head? = some ' ') :
    table.match? (front ++ (word ++ behind)) = table.match? front :=
  match?_congr fun _ member =>
    unmentioned.isPrefix_append_iff (List.mem_map_of_mem member) ends starts

theorem pass_append (unmentioned : table.Unmentioned word)
    (ends : front = [] ∨ front.getLast? = some ' ') (starts : behind.head? = some ' ') :
    table.pass (front ++ (word ++ behind)) = table.pass front ++ (word ++ table.pass behind) := by
  have restEnds : ∀ taken rest : Text, (taken ++ rest).getLast? = some ' ' →
      rest = [] ∨ rest.getLast? = some ' ' := by
    intro taken rest wholeEnds
    by_cases noRest : rest = []
    · exact .inl noRest
    · rw [List.getLast?_append_of_ne_nil taken noRest] at wholeEnds
      exact .inr wholeEnds
  induction front using table.passInduction with
  | nil => exact table.pass_word_append unmentioned.isWord behind
  | kept char rest unmatched ih =>
      have charEnds := ends.resolve_left (List.cons_ne_nil char rest)
      have whole := unmentioned.match?_append charEnds starts
      rw [unmatched, List.cons_append] at whole
      rw [List.cons_append, pass_kept whole, pass_kept unmatched,
        ih (restEnds [char] rest charEnds), List.cons_append]
  | replaced key replacement rest matched ih =>
      have someKey : key ++ rest ≠ [] := fun empty => by
        rw [empty, table.match?_of_short (by decide)] at matched
        cases matched
      have keyEnds := ends.resolve_left someKey
      have whole := unmentioned.match?_append keyEnds starts
      rw [matched, List.append_assoc] at whole
      rw [List.append_assoc, pass_replaced whole, pass_replaced matched, ih (restEnds key rest keyEnds),
        List.append_assoc]

theorem shorter (unmentioned : table.Unmentioned word) {text : Text}
    (same : text = front ++ (word ++ behind)) :
    front.length < text.length ∧ behind.length < text.length := by
  have someWord := List.length_pos_iff.mpr unmentioned.nonempty
  have lengths := congrArg List.length same
  rw [List.length_append, List.length_append] at lengths
  omega

section Edged

variable (unmentioned : table.Unmentioned word) (keeps : table.KeepsEdges)

include unmentioned

theorem pass_append_of_isEdged (frontEdged : IsEdged front) (behindEdged : IsEdged behind) :
    table.pass (front ++ (word ++ behind)) = table.pass front ++ (word ++ table.pass behind) :=
  unmentioned.pass_append (.inr frontEdged.ends) behindEdged.starts

include keeps

/-- No pass takes the word out of the text in front of it: what is left would have had to lose the
word in its turn. -/
theorem ne_pass_append (frontEdged : IsEdged front) (behindEdged : IsEdged behind) :
    front ≠ table.pass front ++ (word ++ behind) := by
  intro lost
  refine table.not_always_shorter
    (fun text => ∃ rest, IsEdged text ∧ IsEdged rest ∧ text = table.pass text ++ (word ++ rest)) ?_
    front ⟨behind, frontEdged, behindEdged, lost⟩
  rintro text ⟨rest, edged, restEdged, same⟩
  have passed := unmentioned.pass_append_of_isEdged (isEdged_pass keeps edged) restEdged
  rw [← same] at passed
  exact ⟨⟨table.pass rest, isEdged_pass keeps edged, isEdged_pass keeps restEdged, passed⟩,
    (unmentioned.shorter same).1⟩

theorem ne_append_pass (frontEdged : IsEdged front) (behindEdged : IsEdged behind) :
    behind ≠ front ++ (word ++ table.pass behind) := by
  intro lost
  refine table.not_always_shorter
    (fun text => ∃ rest, IsEdged text ∧ IsEdged rest ∧ text = rest ++ (word ++ table.pass text)) ?_
    behind ⟨front, behindEdged, frontEdged, lost⟩
  rintro text ⟨rest, edged, restEdged, same⟩
  have passed := unmentioned.pass_append_of_isEdged restEdged (isEdged_pass keeps edged)
  rw [← same] at passed
  exact ⟨⟨table.pass rest, isEdged_pass keeps edged, isEdged_pass keeps restEdged, passed⟩,
    (unmentioned.shorter same).2⟩

theorem isFixedPt_append_iff (frontEdged : IsEdged front) (behindEdged : IsEdged behind) :
    Function.IsFixedPt table.pass (front ++ (word ++ behind)) ↔
      Function.IsFixedPt table.pass front ∧ Function.IsFixedPt table.pass behind := by
  have frontPassed := isEdged_pass keeps frontEdged
  have behindPassed := isEdged_pass keeps behindEdged
  change table.pass (front ++ (word ++ behind)) = front ++ (word ++ behind) ↔ _
  rw [unmentioned.pass_append_of_isEdged frontEdged behindEdged]
  constructor
  · intro fixed
    have sameLength : (table.pass front).length = front.length := by
      rcases Nat.lt_trichotomy (table.pass front).length front.length with
        shorter | same | longer
      · obtain ⟨between, betweenEdged, lost, -⟩ :=
          exists_between unmentioned.isWord frontEdged behindPassed shorter fixed
        exact absurd lost (unmentioned.ne_pass_append keeps frontEdged betweenEdged)
      · exact same
      · obtain ⟨between, betweenEdged, -, lost⟩ :=
          exists_between unmentioned.isWord frontPassed behindEdged longer fixed.symm
        exact absurd lost (unmentioned.ne_append_pass keeps betweenEdged behindEdged)
    obtain ⟨frontFixed, rest⟩ := List.append_inj fixed sameLength
    exact ⟨frontFixed, List.append_cancel_left rest⟩
  · rintro ⟨frontFixed, behindFixed⟩
    rw [frontFixed, behindFixed]

theorem iterate_pass_append (frontEdged : IsEdged front) (behindEdged : IsEdged behind)
    (count : Nat) :
    table.pass^[count] (front ++ (word ++ behind)) =
      table.pass^[count] front ++ (word ++ table.pass^[count] behind) := by
  induction count with
  | zero => rfl
  | succ count ih =>
      rw [Function.iterate_succ_apply', ih, unmentioned.pass_append_of_isEdged
        (isEdged_iterate_pass keeps frontEdged count)
        (isEdged_iterate_pass keeps behindEdged count),
        Function.iterate_succ_apply', Function.iterate_succ_apply']

/-- The whole settles when both sides have settled, however many more passes one takes than the
other. -/
theorem settle?_append (frontEdged : IsEdged front) (behindEdged : IsEdged behind) {passes : Nat}
    {settled : Text} :
    table.settle? passes (front ++ (word ++ behind)) = some settled ↔
      ∃ first second, table.settle? passes front = some first ∧
        table.settle? passes behind = some second ∧ settled = first ++ (word ++ second) := by
  constructor
  · intro settles
    obtain ⟨count, within, rfl, fixed⟩ := settle?_eq_some_iff.mp settles
    rw [unmentioned.iterate_pass_append keeps frontEdged behindEdged] at fixed ⊢
    obtain ⟨frontFixed, behindFixed⟩ := (unmentioned.isFixedPt_append_iff keeps
      (isEdged_iterate_pass keeps frontEdged count)
      (isEdged_iterate_pass keeps behindEdged count)).mp fixed
    exact ⟨_, _, settle?_eq_some_iff.mpr ⟨count, within, rfl, frontFixed⟩,
      settle?_eq_some_iff.mpr ⟨count, within, rfl, behindFixed⟩, rfl⟩
  · rintro ⟨first, second, firstSettles, secondSettles, rfl⟩
    obtain ⟨left, leftWithin, rfl, frontFixed⟩ := settle?_eq_some_iff.mp firstSettles
    obtain ⟨right, rightWithin, rfl, behindFixed⟩ := settle?_eq_some_iff.mp secondSettles
    -- Both sides stand still after the passes of the slower one.
    have frontStays : table.pass^[max left right] front = table.pass^[left] front := by
      rw [← Nat.sub_add_cancel (Nat.le_max_left left right), Function.iterate_add_apply,
        Function.iterate_fixed frontFixed]
    have behindStays : table.pass^[max left right] behind = table.pass^[right] behind := by
      rw [← Nat.sub_add_cancel (Nat.le_max_right left right), Function.iterate_add_apply,
        Function.iterate_fixed behindFixed]
    refine settle?_eq_some_iff.mpr
      ⟨max left right, Nat.max_lt.mpr ⟨leftWithin, rightWithin⟩, ?_, ?_⟩
    · rw [unmentioned.iterate_pass_append keeps frontEdged behindEdged, frontStays, behindStays]
    · exact (unmentioned.isFixedPt_append_iff keeps (isEdged_iterate_pass keeps frontEdged left)
        (isEdged_iterate_pass keeps behindEdged right)).mpr ⟨frontFixed, behindFixed⟩

end Edged

end Unmentioned

section Padded

variable (keeps : table.KeepsEdges) (twoLong : ∀ rule ∈ table.rules.entries, 2 ≤ rule.2.length)

include keeps twoLong

theorem two_le_length_pass {subject : Text} (long : 2 ≤ subject.length) :
    2 ≤ (table.pass subject).length := by
  induction subject using table.passInduction with
  | nil => simp at long
  | kept char rest unmatched =>
      have someRest : rest ≠ [] := by
        rintro rfl
        simp at long
      have somePassed := List.length_pos_iff.mpr (pass_ne_nil keeps someRest)
      rw [pass_kept unmatched, List.length_cons]
      omega
  | replaced key replacement rest matched =>
      have replacementLong : 2 ≤ replacement.length := twoLong _ (match?_eq_some matched).1
      rw [pass_replaced matched, List.length_append]
      omega

/-- Both spaces around a text outlast every pass. -/
theorem exists_pad_iterate_pass (text : Text) (count : Nat) :
    ∃ inner, table.pass^[count] (pad text) = pad inner := by
  induction count with
  | zero => exact ⟨text, rfl⟩
  | succ count ih =>
      obtain ⟨inner, reached⟩ := ih
      rw [Function.iterate_succ_apply', reached]
      refine (isEdged_pass keeps (isEdged_pad inner)).eq_space_or_pad.resolve_left fun single => ?_
      have long : 2 ≤ (table.pass (pad inner)).length :=
        two_le_length_pass keeps twoLong (by simp [pad])
      rw [single] at long
      exact absurd long (by decide)

end Padded

/-- A word that no key mentions parts a text in two for the purpose of rewriting. The whole is
rewritten within a number of passes just when both sides are, and then the word stands between what
the two sides are rewritten to, as it stood between them. -/
theorem rewriteWithin_around (keeps : table.KeepsEdges)
    (twoLong : ∀ rule ∈ table.rules.entries, 2 ≤ rule.2.length)
    (unmentioned : table.Unmentioned word) (passes : Int) (before after result : Text) :
    table.rewriteWithin passes (before ++ ' ' :: (word ++ ' ' :: after)) = .ok result ↔
      ∃ first second, table.rewriteWithin passes before = .ok first ∧
        table.rewriteWithin passes after = .ok second ∧
        result = first ++ ' ' :: (word ++ ' ' :: second) := by
  by_cases noRule : table.rules.size = 0
  · simp [rewriteWithin_of_no_rule noRule, eq_comm]
  · have padded : ∀ first second : Text, pad first ++ (word ++ pad second) =
        pad (first ++ ' ' :: (word ++ ' ' :: second)) := by
      intro first second
      simp [pad]
    have exists_pad : ∀ {source settled : Text},
        table.settle? passes.toNat (pad source) = some settled → ∃ inner, settled = pad inner := by
      intro source settled settles
      obtain ⟨count, -, rfl, -⟩ := settle?_eq_some_iff.mp settles
      exact exists_pad_iterate_pass keeps twoLong source count
    simp only [rewriteWithin_eq_ok_iff noRule]
    rw [← padded]
    constructor
    · rintro ⟨settled, settles, rfl⟩
      obtain ⟨first, second, firstSettles, secondSettles, rfl⟩ := (unmentioned.settle?_append keeps
        (isEdged_pad before) (isEdged_pad after)).mp settles
      obtain ⟨left, rfl⟩ := exists_pad firstSettles
      obtain ⟨right, rfl⟩ := exists_pad secondSettles
      refine ⟨left, right, ⟨_, firstSettles, unpad_pad left⟩, ⟨_, secondSettles, unpad_pad right⟩,
        ?_⟩
      rw [padded, unpad_pad]
    · rintro ⟨-, -, ⟨first, firstSettles, rfl⟩, ⟨second, secondSettles, rfl⟩, rfl⟩
      obtain ⟨left, rfl⟩ := exists_pad firstSettles
      obtain ⟨right, rfl⟩ := exists_pad secondSettles
      refine ⟨_, (unmentioned.settle?_append keeps (isEdged_pad before) (isEdged_pad after)).mpr
        ⟨_, _, firstSettles, secondSettles, rfl⟩, ?_⟩
      rw [padded, unpad_pad, unpad_pad, unpad_pad]

/-- A key of two words, reached by way of another one, that brings in a word of its own. -/
def inserting : Table :=
  Table.ofRules [(" x ".toList, " a b ".toList), (" a b ".toList, " w c ".toList)] (by decide)

theorem rewriteWithin_around_inserting :
    inserting.KeepsEdges ∧ (∀ rule ∈ inserting.rules.entries, 2 ≤ rule.2.length) ∧
      inserting.Unmentioned ['w'] ∧
      inserting.rewriteWithin 3 "x w a b".toList = .ok "w c w w c".toList ∧
      inserting.rewriteWithin 2 "a b".toList = .ok "w c".toList ∧
      ∀ result, inserting.rewriteWithin 2 "x w a b".toList ≠ .ok result := by
  have keeps : inserting.KeepsEdges := by decide
  have twoLong : ∀ rule ∈ inserting.rules.entries, 2 ≤ rule.2.length := by decide
  have unmentioned : inserting.Unmentioned ['w'] := ⟨by decide, by decide, by decide⟩
  have parted := fun passes =>
    rewriteWithin_around keeps twoLong unmentioned passes "x".toList "a b".toList
  refine ⟨keeps, twoLong, unmentioned, ?_, by decide, fun result rewritten => ?_⟩
  · exact (parted 3 _).mpr ⟨"w c".toList, "w c".toList, by decide, by decide, by decide⟩
  · obtain ⟨first, second, leftRewritten, -⟩ := (parted 2 result).mp rewritten
    rw [show inserting.rewriteWithin 2 "x".toList = .error (.unsettled 2) by decide]
      at leftRewritten
    cases leftRewritten

end SquareOne.Rewrite.Table
