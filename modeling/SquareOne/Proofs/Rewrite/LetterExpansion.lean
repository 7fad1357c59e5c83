import SquareOne.Proofs.Rewrite.Settling
import SquareOne.Rewrite.LetterTurns

/-! The letter turns written out. Their table is acyclic: a letter stands for pairs or for letters
that stand for pairs.
-/

namespace SquareOne.Rewrite

/-- The words that a letter turn stands for, looked up in the list of them. -/
def wordsOfLetter? (word : Text) : Option (List Text) :=
  (letterWords.find? fun entry => entry.1.toList = word).map fun entry =>
    entry.2.map String.toList

theorem letterTurns_entries : letterTurns.rules.entries = letterRules :=
  Dictionary.entries_ofList (by decide +kernel)

theorem letterWords_areWords : ∀ entry ∈ letterWords,
    ' ' ∉ entry.1.toList ∧ entry.2.map String.toList ≠ [] ∧
      ∀ part ∈ entry.2.map String.toList, part ≠ [] ∧ ' ' ∉ part := by
  decide +kernel

theorem letterTurns_ofWords : letterTurns.OfWords := by
  intro rule member
  rw [letterTurns_entries, letterRules, List.mem_map] at member
  obtain ⟨entry, entryMember, rfl⟩ := member
  exact ⟨_, _, rfl, letterWords_areWords entry entryMember⟩

theorem letterTurns_wordsFor? (word : Text) : letterTurns.wordsFor? word = wordsOfLetter? word := by
  have keys : ((fun rule : Text × Text => decide (rule.1 = pad word)) ∘
      fun (entry : String × List String) =>
        (pad entry.1.toList, pad (Text.joinWith ' ' (entry.2.map String.toList)))) =
          fun entry => decide (entry.1.toList = word) := by
    funext entry
    exact decide_eq_decide.mpr ⟨pad_injective, fun same => by rw [← same]⟩
  rw [Table.wordsFor?, Dictionary.get?, letterTurns_entries, letterRules, List.find?_map, keys,
    wordsOfLetter?]
  cases found : letterWords.find? fun entry => decide (entry.1.toList = word) with
  | none => rfl
  | some entry =>
      obtain ⟨-, nonempty, clean⟩ := letterWords_areWords entry (List.mem_of_find?_eq_some found)
      have cut := Text.splitOn_joinWith nonempty fun part member => (clean part member).2
      simp only [Option.map_some, unpad_pad, cut]

theorem mem_letterWords_of_some {word : Text} {words : List Text}
    (found : letterTurns.wordsFor? word = some words) :
    ∃ entry ∈ letterWords, entry.1.toList = word ∧ entry.2.map String.toList = words := by
  rw [letterTurns_wordsFor?, wordsOfLetter?, Option.map_eq_some_iff] at found
  obtain ⟨entry, located, rfl⟩ := found
  exact ⟨entry, List.mem_of_find?_eq_some located, by simpa using List.find?_some located, rfl⟩

/-- Zero for other words, one for the letters that stand for pairs, two for those that stand for
letters. -/
def letterRank (word : Text) : Nat :=
  match wordsOfLetter? word with
  | none => 0
  | some words => if words.all fun part => part.contains ',' then 1 else 2

theorem letterRank_falls : ∀ entry ∈ letterWords, ∀ part ∈ entry.2.map String.toList,
    letterRank part < letterRank entry.1.toList := by
  decide +kernel

theorem letterTurns_ranked : letterTurns.Ranked letterRank 2 where
  leaf := by
    intro word plain
    rw [letterTurns_wordsFor?] at plain
    rw [letterRank, plain]
  falls := by
    intro word words found part member
    obtain ⟨entry, entryMember, rfl, rfl⟩ := mem_letterWords_of_some found
    exact letterRank_falls entry entryMember part member
  bounded := by
    intro word
    unfold letterRank
    split
    · omega
    · split <;> omega

/-- All that a word stands for among the letter turns; the word itself if it is none of them. -/
def letters (word : Text) : List Text :=
  letterTurns.unfold 2 word

/-- Two look-ups in the list of the letter turns write out any of them. -/
theorem letters_eq (word : Text) :
    letters word =
      match wordsOfLetter? word with
      | none => [word]
      | some words => words.flatMap fun part => (wordsOfLetter? part).getD [part] := by
  have once : ∀ part : Text, letterTurns.unfold 1 part = (wordsOfLetter? part).getD [part] := by
    intro part
    rw [Table.unfold, letterTurns_wordsFor?]
    cases wordsOfLetter? part with
    | none => rfl
    | some words => exact List.flatMap_singleton' words
  rw [letters, Table.unfold, letterTurns_wordsFor?]
  cases wordsOfLetter? word with
  | none => rfl
  | some words => simp only [List.flatMap_def, List.map_congr_left fun part _ => once part]

/-- The letter turns are written out in every text, within the usual limit of passes. -/
theorem letterTurns_rewrite (text : Text) :
    letterTurns.rewrite text = .ok (Text.joinWith ' ' ((text.splitOn ' ').flatMap letters)) :=
  letterTurns_ranked.rewriteWithin_eq letterTurns_ofWords (by decide) text

theorem letters_nil : letters [] = [[]] :=
  Table.unfold_of_none (by rw [letterTurns_wordsFor?]; decide) 2

theorem letterTurns_rewrite_joinWith {pieces : List Text} (clean : ∀ piece ∈ pieces, ' ' ∉ piece) :
    letterTurns.rewrite (Text.joinWith ' ' pieces) =
      .ok (Text.joinWith ' ' (pieces.flatMap letters)) := by
  rw [letterTurns_rewrite]
  cases pieces with
  | nil => simp [letters_nil]
  | cons piece rest => rw [Text.splitOn_joinWith (List.cons_ne_nil piece rest) clean]

/-- Rewriting with a table of words whose replacements never lead back to the same word. Any ranks
that fall with every replacement will do, such as one more than the largest rank in it. The number
of passes depends on the ranks alone, and every word of the text ends up as all that it stands for;
the letter turns have such ranks, so no text is too long for them. -/
theorem rewriteWithin_of_ranked {table : Table} {rank : Text → Nat} {depth : Nat}
    (ofWords : table.OfWords) (ranked : table.Ranked rank depth) {passes : Int}
    (enough : ((depth * (depth + 3) / 2 + 1 : Nat) : Int) ≤ passes) (text : Text) :
    table.rewriteWithin passes text =
        .ok (Text.joinWith ' ' ((text.splitOn ' ').flatMap (table.unfold depth))) ∧
      (∀ word, table.unfold depth word =
        match table.wordsFor? word with
        | some words => words.flatMap (table.unfold depth)
        | none => [word]) ∧
      ∀ other : Text, ∃ settled, letterTurns.rewrite other = .ok settled := by
  refine ⟨ranked.rewriteWithin_eq ofWords ?_ text, fun word => ?_, fun other => ?_⟩
  · have doubled := Table.two_mul_stairs depth
    have rearranged : depth * (depth + 3) = depth * (depth + 1) + 2 * depth := by
      rw [Nat.mul_add, Nat.mul_add]
      omega
    omega
  · cases found : table.wordsFor? word with
    | none => exact Table.unfold_of_none found depth
    | some words => exact ranked.unfold_of_some ofWords found
  · exact ⟨_, letterTurns_rewrite other⟩

theorem rewriteWithin_of_ranked_letters :
    letterTurns.OfWords ∧ letterTurns.Ranked letterRank 2 ∧
      ((2 * (2 + 3) / 2 + 1 : Nat) : Int) ≤ 6 ∧
      letterTurns.rewriteWithin 6 "U4 W  x b'".toList =
        .ok "3,0 -3,0 3,0 -3,0 3,0 -3,0  x 1,-2 -1,2".toList := by
  have enough : ((2 * (2 + 3) / 2 + 1 : Nat) : Int) ≤ 6 := by decide
  refine ⟨letterTurns_ofWords, letterTurns_ranked, enough, ?_⟩
  rw [(rewriteWithin_of_ranked letterTurns_ofWords letterTurns_ranked enough _).1]
  exact congrArg Except.ok (by decide +kernel)

end SquareOne.Rewrite
