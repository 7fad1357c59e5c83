import SquareOne.Proofs.Rewrite.WordRules

/-! How many passes rewriting needs when no word is replaced, in however many steps, by itself.

The words then have ranks that fall from a word to those that replace it. A word waits for as long
as the word before it is still being replaced, so its rank and the rank of the word before bound the
passes until nothing is left to replace, whatever the length of the text.
-/

namespace SquareOne.Rewrite.Table

variable {table : Table} {rank : Text → Nat} {depth : Nat}

/-- Ranks of the words of a table: zero where there is no rule, and less for every word of a
replacement than for the word it replaces. -/
structure Ranked (table : Table) (rank : Text → Nat) (depth : Nat) : Prop where
  leaf : ∀ {word}, table.wordsFor? word = none → rank word = 0
  falls : ∀ {word words}, table.wordsFor? word = some words → ∀ part ∈ words, rank part < rank word
  bounded : ∀ word, rank word ≤ depth

theorem Ranked.rank_pos (ranked : table.Ranked rank depth) (ofWords : table.OfWords) {word : Text}
    {words : List Text} (found : table.wordsFor? word = some words) : 0 < rank word := by
  obtain ⟨first, rest, rfl⟩ := List.exists_cons_of_ne_nil (ofWords.get?_eq found).2.2.1
  have := ranked.falls found first (by simp)
  omega

/-- A word written out: in its place the words that replace it, in theirs those that replace them,
down to `depth` replacements one inside the other. -/
def unfold (table : Table) : Nat → Text → List Text
  | 0, word => [word]
  | depth + 1, word =>
      match table.wordsFor? word with
      | some words => words.flatMap (table.unfold depth)
      | none => [word]

theorem unfold_of_none {word : Text} (plain : table.wordsFor? word = none) (depth : Nat) :
    table.unfold depth word = [word] := by
  cases depth <;> simp [unfold, plain]

theorem Ranked.unfold_succ (ranked : table.Ranked rank depth) (ofWords : table.OfWords)
    {layers : Nat} {word : Text} (enough : rank word ≤ layers) :
    table.unfold (layers + 1) word = table.unfold layers word := by
  induction layers generalizing word with
  | zero =>
      cases found : table.wordsFor? word with
      | none => rw [unfold_of_none found, unfold_of_none found]
      | some words =>
          have := ranked.rank_pos ofWords found
          omega
  | succ layers ih =>
      cases found : table.wordsFor? word with
      | none => rw [unfold_of_none found, unfold_of_none found]
      | some words =>
          have parts : words.map (table.unfold (layers + 1)) = words.map (table.unfold layers) := by
            refine List.map_congr_left fun part member => ih ?_
            have := ranked.falls found part member
            omega
          rw [unfold, unfold, found]
          simp only [List.flatMap_def, parts]

/-- With ranks up to `depth`, writing a word out to that depth leaves nothing to be replaced. -/
theorem Ranked.unfold_of_some (ranked : table.Ranked rank depth) (ofWords : table.OfWords)
    {word : Text} {words : List Text} (found : table.wordsFor? word = some words) :
    table.unfold depth word = words.flatMap (table.unfold depth) := by
  rw [← ranked.unfold_succ ofWords (ranked.bounded word), unfold, found]

theorem Ranked.wordsFor?_of_mem_unfold (ranked : table.Ranked rank depth)
    (ofWords : table.OfWords) {layers : Nat} {word part : Text} (enough : rank word ≤ layers)
    (member : part ∈ table.unfold layers word) : table.wordsFor? part = none := by
  induction layers generalizing word with
  | zero =>
      obtain rfl := List.mem_singleton.mp member
      cases found : table.wordsFor? part with
      | none => rfl
      | some words =>
          have := ranked.rank_pos ofWords found
          omega
  | succ layers ih =>
      cases found : table.wordsFor? word with
      | none =>
          rw [unfold_of_none found, List.mem_singleton] at member
          rwa [member]
      | some words =>
          rw [unfold, found] at member
          obtain ⟨next, nextMember, inNext⟩ := List.mem_flatMap.mp member
          have := ranked.falls found next nextMember
          exact ih (by omega) inNext

/-- What a word is written out to comes from the replacements, unless it is the word itself. -/
theorem mem_replacement_of_mem_unfold {layers : Nat} {word part : Text}
    (member : part ∈ table.unfold layers word) :
    part = word ∨ ∃ key words, table.wordsFor? key = some words ∧ part ∈ words := by
  induction layers generalizing word with
  | zero => exact .inl (List.mem_singleton.mp member)
  | succ layers ih =>
      cases found : table.wordsFor? word with
      | none =>
          rw [unfold_of_none found] at member
          exact .inl (List.mem_singleton.mp member)
      | some words =>
          rw [unfold, found] at member
          obtain ⟨next, nextMember, inNext⟩ := List.mem_flatMap.mp member
          rcases ih inNext with rfl | replaced
          · exact .inr ⟨word, words, found, nextMember⟩
          · exact .inr replaced

theorem Ranked.flatMap_unfold_passWords (ranked : table.Ranked rank depth)
    (ofWords : table.OfWords) (blocked : Bool) (words : List Text) :
    (table.passWords blocked words).flatMap (table.unfold depth) =
      words.flatMap (table.unfold depth) := by
  induction words generalizing blocked with
  | nil => simp [passWords]
  | cons word rest ih =>
      cases blocked with
      | true => rw [passWords, List.flatMap_cons, ih, List.flatMap_cons]
      | false =>
          cases found : table.wordsFor? word with
          | none => simp [passWords, found, ih]
          | some words => simp [passWords, found, ih, ranked.unfold_of_some ofWords found]

/-- The sum of the numbers up to `count`. -/
def stairs : Nat → Nat
  | 0 => 0
  | count + 1 => stairs count + (count + 1)

theorem two_mul_stairs (count : Nat) : 2 * stairs count = count * (count + 1) := by
  induction count with
  | zero => rfl
  | succ count ih => rw [stairs, Nat.mul_add, ih, ← Nat.add_mul, Nat.mul_comm]

theorem stairs_mono {low high : Nat} (below : low ≤ high) : stairs low ≤ stairs high := by
  induction below with
  | refl => exact Nat.le_refl _
  | step _ ih => exact Nat.le_trans ih (Nat.le_add_right _ _)

/-- How many passes it takes at most until all is written out that a word of rank `rank` stands for,
behind a word of rank `left`: each step of the word before may hold it up once, and after its own
first step all but the first of its words stand behind words of smaller rank. -/
def wait (left rank : Nat) : Nat :=
  if rank = 0 then 0 else left + stairs rank

/-- Whether no word of a row waits for more than `passes`, the first standing behind one of rank
`left`. -/
def SettlesWithin (rank : Text → Nat) (passes : Nat) : Nat → List Text → Prop
  | _, [] => True
  | left, word :: rest =>
      wait left (rank word) ≤ passes ∧ SettlesWithin rank passes (rank word) rest

theorem wait_le_of_ranks {left right depth passes : Nat} (leftBound : left ≤ depth)
    (rightBound : right ≤ depth) (enough : depth + stairs depth ≤ passes) :
    wait left right ≤ passes := by
  have lower := stairs_mono rightBound
  by_cases leaf : right = 0
  · rw [wait, if_pos leaf]
    exact Nat.zero_le passes
  · rw [wait, if_neg leaf]
    omega

theorem wait_mono {lower left : Nat} (notAbove : lower ≤ left) (right : Nat) :
    wait lower right ≤ wait left right := by
  by_cases leaf : right = 0
  · have nothing : wait lower right = 0 := if_pos leaf
    rw [nothing]
    exact Nat.zero_le _
  · rw [wait, wait, if_neg leaf, if_neg leaf]
    omega

theorem wait_le_of_lt {lower left right passes : Nat} (below : lower < left)
    (waits : wait left right ≤ passes + 1) : wait lower right ≤ passes := by
  by_cases leaf : right = 0
  · rw [wait, if_pos leaf]
    exact Nat.zero_le passes
  · rw [wait, if_neg leaf] at waits ⊢
    omega

theorem Ranked.settlesWithin (ranked : table.Ranked rank depth) {passes left : Nat}
    (leftBound : left ≤ depth) (enough : depth + stairs depth ≤ passes) (words : List Text) :
    SettlesWithin rank passes left words := by
  induction words generalizing left with
  | nil => trivial
  | cons word rest ih =>
      exact ⟨wait_le_of_ranks leftBound (ranked.bounded word) enough, ih (ranked.bounded word)⟩

/-- The words of a replacement wait less than the word they replace, the first of them because its
rank is smaller, the others because both ranks are. -/
theorem settlesWithin_replacement {words rest : List Text} {left top passes : Nat}
    (nonempty : words ≠ []) (falls : ∀ part ∈ words, rank part < top)
    (waits : wait left top ≤ passes + 1)
    (behind : ∀ lower, lower < top → SettlesWithin rank passes lower rest) :
    SettlesWithin rank passes left (words ++ rest) := by
  have positive : 0 < top := by
    obtain ⟨first, others, rfl⟩ := List.exists_cons_of_ne_nil nonempty
    have := falls first (by simp)
    omega
  obtain ⟨below, rfl⟩ : ∃ below, top = below + 1 := ⟨top - 1, by omega⟩
  rw [wait, if_neg (Nat.succ_ne_zero below), stairs] at waits
  have inner : ∀ (parts : List Text) (before : Nat), before ≤ below → parts ≠ [] →
      (∀ part ∈ parts, rank part < below + 1) →
        SettlesWithin rank passes before (parts ++ rest) := by
    intro parts
    induction parts with
    | nil => intro before bound nonempty; contradiction
    | cons part parts ih =>
        intro before bound nonempty falls
        have partFalls := falls part (by simp)
        refine ⟨wait_le_of_ranks bound (by omega) (by omega), ?_⟩
        cases parts with
        | nil => exact behind _ partFalls
        | cons next parts =>
            exact ih (rank part) (by omega) (by simp) fun other member =>
              falls other (List.mem_cons_of_mem _ member)
  obtain ⟨first, others, rfl⟩ := List.exists_cons_of_ne_nil nonempty
  have firstFalls := falls first (by simp)
  have firstWait : wait left (rank first) ≤ passes := by
    have := stairs_mono (show rank first ≤ below by omega)
    unfold wait
    split <;> omega
  refine ⟨firstWait, ?_⟩
  cases others with
  | nil => exact behind _ firstFalls
  | cons next others =>
      exact inner (next :: others) (rank first) (by omega) (by simp) fun other member =>
        falls other (List.mem_cons_of_mem _ member)

/-- A pass takes one off every wait. A word that is held up has a word before it that was replaced,
whose rank has fallen from `left` to `lower`. -/
theorem Ranked.settlesWithin_passWords (ranked : table.Ranked rank depth)
    (ofWords : table.OfWords) {passes left lower : Nat} {blocked : Bool} {words : List Text}
    (settles : SettlesWithin rank (passes + 1) left words) (notAbove : lower ≤ left)
    (held : blocked = true → lower < left) :
    SettlesWithin rank passes lower (table.passWords blocked words) := by
  induction words generalizing left lower blocked with
  | nil => simp [passWords, SettlesWithin]
  | cons word rest ih =>
      obtain ⟨waits, restSettles⟩ := settles
      cases blocked with
      | true =>
          exact ⟨wait_le_of_lt (held rfl) waits, ih restSettles (Nat.le_refl _) (by simp)⟩
      | false =>
          cases found : table.wordsFor? word with
          | none =>
              simp only [passWords, found]
              exact ⟨by simp [wait, ranked.leaf found], ih restSettles (Nat.le_refl _) (by simp)⟩
          | some words =>
              simp only [passWords, found]
              have lowerWaits := Nat.le_trans (wait_mono notAbove (rank word)) waits
              refine settlesWithin_replacement (ofWords.get?_eq found).2.2.1 (ranked.falls found)
                lowerWaits fun lower below => ?_
              exact ih restSettles (Nat.le_of_lt below) fun _ => below

theorem Ranked.settled_of_zero (ranked : table.Ranked rank depth) (ofWords : table.OfWords)
    {left : Nat} {words : List Text} (settles : SettlesWithin rank 0 left words) :
    ∀ word ∈ words, table.wordsFor? word = none := by
  induction words generalizing left with
  | nil => simp
  | cons word rest ih =>
      obtain ⟨waits, restSettles⟩ := settles
      have settled : table.wordsFor? word = none := by
        cases found : table.wordsFor? word with
        | none => rfl
        | some words =>
            have positive := ranked.rank_pos ofWords found
            have climbs : 1 ≤ stairs (rank word) := stairs_mono positive
            rw [wait, if_neg (Nat.ne_of_gt positive)] at waits
            omega
      exact List.forall_mem_cons.mpr ⟨settled, ih restSettles⟩

theorem passWords_of_settled {words : List Text}
    (settled : ∀ word ∈ words, table.wordsFor? word = none) (blocked : Bool) :
    table.passWords blocked words = words := by
  induction words generalizing blocked with
  | nil => simp [passWords]
  | cons word rest ih =>
      have restSettled := ih fun next member => settled next (List.mem_cons_of_mem _ member)
      cases blocked <;> simp [passWords, settled word (by simp), restSettled]

theorem flatMap_unfold_of_settled {words : List Text}
    (settled : ∀ word ∈ words, table.wordsFor? word = none) (depth : Nat) :
    words.flatMap (table.unfold depth) = words := by
  have single : words.map (table.unfold depth) = words.map fun word => [word] :=
    List.map_congr_left fun word member => unfold_of_none (settled word member) depth
  rw [List.flatMap_def, single, ← List.flatMap_def, List.flatMap_singleton']

/-- After as many passes as the longest wait, one more pass finds nothing to replace. -/
theorem Ranked.settle?_spaced (ranked : table.Ranked rank depth) (ofWords : table.OfWords)
    {passes : Nat} {words : List Text} (settles : SettlesWithin rank passes 0 words)
    (areWords : ∀ word ∈ words, ' ' ∉ word) :
    table.settle? (passes + 1) (' ' :: spaced words) =
      some (' ' :: spaced (words.flatMap (table.unfold depth))) := by
  induction passes generalizing words with
  | zero =>
      have settled := ranked.settled_of_zero ofWords settles
      rw [settle?, ofWords.pass_spaced areWords, passWords_of_settled settled,
        flatMap_unfold_of_settled settled]
      simp
  | succ passes ih =>
      have waitsLess : SettlesWithin rank passes 0 (table.passWords false words) :=
        ranked.settlesWithin_passWords ofWords settles (Nat.le_refl _) (by simp)
      have next := ih waitsLess (ofWords.passWords_areWords areWords)
      rw [ranked.flatMap_unfold_passWords ofWords] at next
      rw [settle?, ofWords.pass_spaced areWords]
      -- A pass that changes nothing would also be the next one, whose outcome is known.
      by_cases same : ' ' :: spaced (table.passWords false words) = ' ' :: spaced words
      · rw [same, settle?, ofWords.pass_spaced areWords, if_pos same] at next
        simpa only [same, if_true] using next
      · simpa only [same, if_false] using next

theorem unfold_ne_nil (ofWords : table.OfWords) (layers : Nat) (word : Text) :
    table.unfold layers word ≠ [] := by
  induction layers generalizing word with
  | zero => exact List.cons_ne_nil word []
  | succ layers ih =>
      cases found : table.wordsFor? word with
      | none => rw [unfold_of_none found]; simp
      | some words =>
          obtain ⟨first, rest, rfl⟩ := List.exists_cons_of_ne_nil (ofWords.get?_eq found).2.2.1
          rw [unfold, found]
          simp [ih first]

/-- Rewriting puts in the place of every word all that it stands for. -/
theorem Ranked.rewriteWithin_eq (ranked : table.Ranked rank depth) (ofWords : table.OfWords)
    {passes : Int} (enough : depth + stairs depth + 1 ≤ passes) (text : Text) :
    table.rewriteWithin passes text =
      .ok (Text.joinWith ' ' ((text.splitOn ' ').flatMap (table.unfold depth))) := by
  unfold rewriteWithin
  split
  · rename_i empty
    have settled : ∀ word ∈ text.splitOn ' ', table.wordsFor? word = none := by
      intro word _
      rw [wordsFor?, Dictionary.get?_eq_none_of_size empty, Option.map_none]
    rw [flatMap_unfold_of_settled settled, Text.joinWith_splitOn]
  · obtain ⟨count, counted⟩ : ∃ count : Nat, passes = (count + 1 : Nat) :=
      ⟨(passes - 1).toNat, by omega⟩
    have areWords : ∀ word ∈ text.splitOn ' ', ' ' ∉ word := fun word member =>
      Text.not_mem_of_mem_splitOn member
    have nonempty : text.splitOn ' ' ≠ [] := List.splitOn_ne_nil ' ' text
    have settles := ranked.settlesWithin (Nat.zero_le depth) (show depth + stairs depth ≤ count by
      omega) (text.splitOn ' ')
    have unfolded : (text.splitOn ' ').flatMap (table.unfold depth) ≠ [] := by
      obtain ⟨word, rest, cut⟩ := List.exists_cons_of_ne_nil nonempty
      simp [cut, unfold_ne_nil ofWords depth word]
    have subject : pad text = ' ' :: spaced (text.splitOn ' ') := by
      rw [← pad_joinWith nonempty, Text.joinWith_splitOn]
    rw [counted, Int.toNat_natCast, subject, ranked.settle?_spaced ofWords settles areWords,
      ← pad_joinWith unfolded]
    simp only [unpad_pad]

end SquareOne.Rewrite.Table
