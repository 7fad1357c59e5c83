import Mathlib.Data.List.Nodup
import SquareOne.Proofs.Dictionary
import SquareOne.Proofs.Rewrite.Passes

/-! The longest key wins, in whatever order the rules came in.

Rules are tried with the longest keys first, and a pass takes the first one that fits. Two keys of
one length never fit in one place, so that what a pass does depends on the set of the rules only: it
goes to the leftmost place where any key fits, and takes the longest key there.
-/

namespace SquareOne.Rewrite

variable {rules others : List (Text × Text)} {subject : Text}

/-- The rule for the longest key that `subject` starts with. -/
structure IsLongest (rules : List (Text × Text)) (subject : Text) (rule : Text × Text) : Prop where
  member : rule ∈ rules
  starts : rule.1 <+: subject
  longest : ∀ other ∈ rules, other.1 <+: subject → other.1.length ≤ rule.1.length

/-- No key starts inside `gap` when `rest` stands behind it. -/
def Unmatched (rules : List (Text × Text)) (gap rest : Text) : Prop :=
  ∀ front back, gap = front ++ back → back ≠ [] → ∀ rule ∈ rules, ¬rule.1 <+: back ++ rest

/-- The second text is the first one with replacements put in from the left to the right. Each time
the longest key is replaced that starts at the leftmost place behind the key before where any key
starts, until none starts anywhere in the rest. -/
inductive LeftmostLongest (rules : List (Text × Text)) : Text → Text → Prop
  | kept {rest : Text} (unmatched : Unmatched rules rest []) : LeftmostLongest rules rest rest
  | replaced {gap key replacement rest result : Text}
      (leftmost : Unmatched rules gap (key ++ rest))
      (longest : IsLongest rules (key ++ rest) (key, replacement))
      (onward : LeftmostLongest rules rest result) :
      LeftmostLongest rules (gap ++ (key ++ rest)) (gap ++ (replacement ++ result))

theorem IsLongest.congr (same : ∀ rule, rule ∈ rules ↔ rule ∈ others) {rule : Text × Text}
    (longest : IsLongest rules subject rule) : IsLongest others subject rule where
  member := (same rule).mp longest.member
  starts := longest.starts
  longest := fun other member => longest.longest other ((same other).mpr member)

/-- Keys of one length that start in one place are one key. -/
theorem IsLongest.unique (distinct : (rules.map Prod.fst).Nodup) {first second : Text × Text}
    (left : IsLongest rules subject first) (right : IsLongest rules subject second) :
    first = second := by
  have sameLength : first.1.length = second.1.length :=
    Nat.le_antisymm (right.longest first left.member left.starts)
      (left.longest second right.member right.starts)
  have within : first.1 <+: second.1 :=
    List.prefix_of_prefix_length_le left.starts right.starts sameLength.le
  exact List.inj_on_of_nodup_map distinct left.member right.member
    (within.eq_of_length sameLength)

theorem Unmatched.congr (same : ∀ rule, rule ∈ rules ↔ rule ∈ others) {gap rest : Text}
    (unmatched : Unmatched rules gap rest) : Unmatched others gap rest :=
  fun front back cut nonempty rule member =>
    unmatched front back cut nonempty rule ((same rule).mpr member)

theorem Unmatched.cons {char : Char} {gap rest : Text}
    (here : ∀ rule ∈ rules, ¬rule.1 <+: char :: (gap ++ rest))
    (unmatched : Unmatched rules gap rest) : Unmatched rules (char :: gap) rest := by
  intro front back cut nonempty rule member
  cases front with
  | nil =>
      obtain rfl : char :: gap = back := cut
      exact here rule member
  | cons first front =>
      exact unmatched front back (List.cons.inj cut).2 nonempty rule member

theorem LeftmostLongest.congr (same : ∀ rule, rule ∈ rules ↔ rule ∈ others) {result : Text}
    (substituted : LeftmostLongest rules subject result) :
    LeftmostLongest others subject result := by
  induction substituted with
  | kept unmatched => exact .kept (unmatched.congr same)
  | replaced leftmost longest _ ih => exact .replaced (leftmost.congr same) (longest.congr same) ih

theorem LeftmostLongest.cons {char : Char} {rest result : Text}
    (here : ∀ rule ∈ rules, ¬rule.1 <+: char :: rest)
    (substituted : LeftmostLongest rules rest result) :
    LeftmostLongest rules (char :: rest) (char :: result) := by
  cases substituted with
  | kept unmatched =>
      rw [← List.append_nil rest] at here
      exact .kept (.cons here unmatched)
  | replaced leftmost longest onward =>
      have shifted := LeftmostLongest.replaced (.cons here leftmost) longest onward
      exact shifted

namespace Table

variable {table first second : Table} {rule : Text × Text}

/-- The rules in the order in which they are tried: the longest key first, and keys of one length in
the order in which they came in. -/
def alternatives (table : Table) : List (Text × Text) :=
  table.rules.entries.mergeSort fun first second => second.1.length ≤ first.1.length

theorem match?_eq_some_iff :
    table.match? subject = some rule ↔ IsLongest table.rules.entries subject rule := by
  have isLongest : ∀ {rule}, table.match? subject = some rule →
      IsLongest table.rules.entries subject rule := by
    intro rule found
    obtain ⟨member, starts⟩ := match?_eq_some found
    refine ⟨member, starts, fun other otherMember otherStarts => ?_⟩
    have fits : other ∈ table.rules.entries.filter fun rule => rule.1.isPrefixOf subject :=
      List.mem_filter.mpr ⟨otherMember, List.isPrefixOf_iff_prefix.mpr otherStarts⟩
    have bound := List.le_apply_get_maxOn?_of_mem (f := fun rule : Text × Text => rule.1.length) fits
    simp only [match?] at found
    simpa only [found, Option.get_some] using bound
  refine ⟨isLongest, fun longest => ?_⟩
  cases found : table.match? subject with
  | none =>
      have nothing : table.rules.entries.filter (fun rule => rule.1.isPrefixOf subject) = [] := by
        rwa [match?, ← Option.not_isSome_iff_eq_none, List.isSome_maxOn?_iff, not_not] at found
      have unfit := List.filter_eq_nil_iff.mp nothing rule longest.member
      exact absurd (List.isPrefixOf_iff_prefix.mpr longest.starts) unfit
  | some other =>
      exact congrArg some ((isLongest found).unique table.rules.distinct longest)

theorem pairwise_alternatives (table : Table) :
    table.alternatives.Pairwise fun first second => second.1.length ≤ first.1.length := by
  have sorted := @List.pairwise_mergeSort _
    (fun first second : Text × Text => second.1.length ≤ first.1.length)
    (fun _ _ _ left right => by simp only [decide_eq_true_eq] at left right ⊢; omega)
    (fun _ _ => by simp only [Bool.or_eq_true, decide_eq_true_eq]; omega) table.rules.entries
  simpa only [alternatives, decide_eq_true_eq] using sorted

/-- The first of the alternatives that fits is the longest key that does. -/
theorem match?_eq_find?_alternatives (table : Table) (subject : Text) :
    table.match? subject = table.alternatives.find? fun rule => rule.1.isPrefixOf subject := by
  have sameRules : ∀ rule, rule ∈ table.alternatives ↔ rule ∈ table.rules.entries :=
    fun _ => List.mem_mergeSort
  cases found : table.alternatives.find? fun rule => rule.1.isPrefixOf subject with
  | none =>
      refine match?_eq_none fun rule member starts => ?_
      have unfit := List.find?_eq_none.mp found rule ((sameRules rule).mpr member)
      exact unfit (List.isPrefixOf_iff_prefix.mpr starts)
  | some rule =>
      obtain ⟨fits, before, behind, listed, unfit⟩ := List.find?_eq_some_iff_append.mp found
      have sorted := table.pairwise_alternatives
      have longest : IsLongest table.alternatives subject rule := by
        refine ⟨List.mem_of_find?_eq_some found, List.isPrefixOf_iff_prefix.mp fits,
          fun other member starts => ?_⟩
        rw [listed] at member sorted
        rcases List.mem_append.mp member with inFront | here
        · have otherUnfit := unfit other inFront
          rw [List.isPrefixOf_iff_prefix.mpr starts] at otherUnfit
          cases otherUnfit
        · rcases List.mem_cons.mp here with rfl | inBehind
          · exact le_rfl
          · exact (List.pairwise_cons.mp (List.pairwise_append.mp sorted).2.1).1 other inBehind
      exact match?_eq_some_iff.mpr (longest.congr sameRules)

theorem not_prefix_of_match?_eq_none (unmatched : table.match? subject = none) :
    ∀ rule ∈ table.rules.entries, ¬rule.1 <+: subject := by
  rw [match?_eq_find?_alternatives, List.find?_eq_none] at unmatched
  intro rule member starts
  exact unmatched rule (List.mem_mergeSort.mpr member) (List.isPrefixOf_iff_prefix.mpr starts)

theorem pass_unmatched {gap rest : Text} (unmatched : Unmatched table.rules.entries gap rest) :
    table.pass (gap ++ rest) = gap ++ table.pass rest := by
  induction gap with
  | nil => rfl
  | cons char gap ih =>
      have here := unmatched [] (char :: gap) rfl (List.cons_ne_nil char gap)
      have behind : Unmatched table.rules.entries gap rest := fun front back cut =>
        unmatched (char :: front) back (congrArg (char :: ·) cut)
      exact (pass_kept (match?_eq_none here)).trans (congrArg (char :: ·) (ih behind))

/-- A pass does what can be said of the set of its rules alone, and nothing else does. -/
theorem pass_eq_iff {result : Text} :
    table.pass subject = result ↔ LeftmostLongest table.rules.entries subject result := by
  constructor
  · rintro rfl
    induction subject using table.passInduction with
    | nil =>
        refine .kept fun front back cut nonempty => ?_
        exact absurd (List.append_eq_nil_iff.mp cut.symm).2 nonempty
    | kept char rest unmatched ih =>
        rw [pass_kept unmatched]
        exact .cons (not_prefix_of_match?_eq_none unmatched) ih
    | replaced key replacement rest matched ih =>
        rw [pass_replaced matched]
        have atOnce : Unmatched table.rules.entries [] (key ++ rest) := fun front back cut nonempty =>
          absurd (List.append_eq_nil_iff.mp cut.symm).2 nonempty
        have substituted := LeftmostLongest.replaced atOnce (match?_eq_some_iff.mp matched) ih
        exact substituted
  · intro substituted
    induction substituted with
    | kept unmatched => simpa using pass_unmatched unmatched
    | replaced leftmost longest _ ih =>
        rw [pass_unmatched leftmost, pass_replaced (match?_eq_some_iff.mpr longest), ih]

theorem settle?_congr (samePass : first.pass = second.pass) (passes : Nat) (subject : Text) :
    first.settle? passes subject = second.settle? passes subject := by
  ext settled
  rw [settle?_eq_some_iff, settle?_eq_some_iff, samePass]

theorem entries_of_ofList (distinct : (rules.map Prod.fst).Nodup)
    (built : Table.ofList rules = .ok table) : table.rules.entries = rules := by
  rw [ofList] at built
  split at built
  · cases built
  · cases built
    exact Dictionary.entries_ofList distinct

/-- Rewriting returns a text, or it gives up at the limit of passes. -/
theorem rewriteWithin_ok_or_unsettled (table : Table) (passes : Int) (text : Text) :
    (∃ result, table.rewriteWithin passes text = .ok result) ∨
      table.rewriteWithin passes text = .error (.unsettled passes) := by
  rw [rewriteWithin]
  split
  · exact .inl ⟨text, rfl⟩
  · split
    · exact .inl ⟨_, rfl⟩
    · exact .inr rfl

/-- The same rules in two orders rewrite every text to the same text, or both give up on it. Both
tables take the first rule that fits when the longest keys are tried first, and a pass of either is
the one that goes from each leftmost longest key to the next. -/
theorem rewriteWithin_perm (sameRules : rules.Perm others)
    (distinct : (rules.map Prod.fst).Nodup) (firstBuilt : ofList rules = .ok first)
    (secondBuilt : ofList others = .ok second) :
    (∀ passes text,
      (∃ result, first.rewriteWithin passes text = .ok result ∧
        second.rewriteWithin passes text = .ok result) ∨
      first.rewriteWithin passes text = .error (.unsettled passes) ∧
        second.rewriteWithin passes text = .error (.unsettled passes)) ∧
    (∀ subject,
      (first.match? subject = first.alternatives.find? fun rule => rule.1.isPrefixOf subject) ∧
      second.match? subject = second.alternatives.find? fun rule => rule.1.isPrefixOf subject) ∧
    ∀ subject result,
      (first.pass subject = result ↔ LeftmostLongest rules subject result) ∧
      (second.pass subject = result ↔ LeftmostLongest rules subject result) := by
  have sameMembers : ∀ rule, rule ∈ rules ↔ rule ∈ others := fun _ => sameRules.mem_iff
  have firstEntries := entries_of_ofList distinct firstBuilt
  have secondEntries := entries_of_ofList ((sameRules.map Prod.fst).nodup distinct) secondBuilt
  have firstPasses : ∀ subject result,
      first.pass subject = result ↔ LeftmostLongest rules subject result := by
    intro subject result
    rw [pass_eq_iff, firstEntries]
  have secondPasses : ∀ subject result,
      second.pass subject = result ↔ LeftmostLongest rules subject result := by
    intro subject result
    rw [pass_eq_iff, secondEntries]
    exact ⟨.congr fun rule => (sameMembers rule).symm, .congr sameMembers⟩
  have same : ∀ passes text,
      first.rewriteWithin passes text = second.rewriteWithin passes text := by
    intro passes text
    have sameSize : first.rules.size = second.rules.size := by
      rw [Dictionary.size, Dictionary.size, firstEntries, secondEntries, sameRules.length_eq]
    have samePass : first.pass = second.pass := by
      funext subject
      exact (firstPasses subject _).mpr ((secondPasses subject _).mp rfl)
    rw [rewriteWithin, rewriteWithin, sameSize, settle?_congr samePass]
  refine ⟨fun passes text => ?_, fun subject => ⟨first.match?_eq_find?_alternatives subject,
    second.match?_eq_find?_alternatives subject⟩, fun subject result =>
    ⟨firstPasses subject result, secondPasses subject result⟩⟩
  rw [same]
  rcases second.rewriteWithin_ok_or_unsettled passes text with ⟨result, rewritten⟩ | gaveUp
  · exact .inl ⟨result, rewritten, rewritten⟩
  · exact .inr ⟨gaveUp, gaveUp⟩

/-- A key that another one starts with, told first by one table and last by the other. -/
theorem rewriteWithin_perm_overlapping :
    ∃ first second,
      ofList [(" a ".toList, " x ".toList), (" a b ".toList, " y ".toList)] = .ok first ∧
      ofList [(" a b ".toList, " y ".toList), (" a ".toList, " x ".toList)] = .ok second ∧
      first.rewriteWithin 64 "a b".toList = .ok "y".toList ∧
      second.rewriteWithin 64 "a b".toList = .ok "y".toList := by
  have firstBuilt : ofList [(" a ".toList, " x ".toList), (" a b ".toList, " y ".toList)] =
      .ok (ofRules [(" a ".toList, " x ".toList), (" a b ".toList, " y ".toList)] (by decide)) := rfl
  have secondBuilt : ofList [(" a b ".toList, " y ".toList), (" a ".toList, " x ".toList)] =
      .ok (ofRules [(" a b ".toList, " y ".toList), (" a ".toList, " x ".toList)] (by decide)) := rfl
  have orderFree := rewriteWithin_perm (List.Perm.swap ..) (by decide) firstBuilt secondBuilt
  refine ⟨_, _, firstBuilt, secondBuilt, by decide, ?_⟩
  rcases orderFree.1 64 "a b".toList with ⟨result, rewritten, same⟩ | ⟨gaveUp, -⟩
  · rw [same, ← rewritten]
    decide
  · exact absurd gaveUp (by decide)

end Table

end SquareOne.Rewrite
