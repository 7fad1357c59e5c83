import SquareOne.Proofs.Dictionary
import SquareOne.Proofs.Rewrite.Passes
import SquareOne.Proofs.Text.Cuts

/-! Rewriting with rules that put words in the place of single words.

A subject is a space and then words that are each followed by a space. A pass goes from word to
word: it replaces a word by its words unless the word before it was replaced in the same pass, in
which case the space they share is taken.
-/

namespace SquareOne.Rewrite

/-- The words of a subject behind its first space. -/
def spaced (words : List Text) : Text :=
  words.flatMap fun word => word ++ [' ']

@[simp] theorem spaced_nil : spaced [] = [] := rfl

@[simp] theorem spaced_cons (word : Text) (rest : List Text) :
    spaced (word :: rest) = word ++ ' ' :: spaced rest := by
  simp [spaced]

@[simp] theorem spaced_append (first second : List Text) :
    spaced (first ++ second) = spaced first ++ spaced second :=
  List.flatMap_append

theorem pad_joinWith {words : List Text} (nonempty : words ≠ []) :
    pad (Text.joinWith ' ' words) = ' ' :: spaced words := by
  have shifted : ∀ (word : Text) (rest : List Text),
      word ++ (rest.flatMap (' ' :: ·) ++ [' ']) = spaced (word :: rest) := by
    intro word rest
    induction rest generalizing word with
    | nil => simp
    | cons next rest ih => simp [ih]
  obtain ⟨word, rest, rfl⟩ := List.exists_cons_of_ne_nil nonempty
  rw [pad, Text.joinWith_cons, List.cons_append, List.append_assoc, shifted]

theorem pad_injective {left right : Text} (same : pad left = pad right) : left = right := by
  rw [← unpad_pad left, same, unpad_pad]

theorem pad_isPrefixOf_iff {left right rest : Text} (leftWord : ' ' ∉ left)
    (rightWord : ' ' ∉ right) :
    (pad left).isPrefixOf (' ' :: right ++ ' ' :: rest) = true ↔ left = right := by
  rw [List.isPrefixOf_iff_prefix]
  constructor
  · rintro ⟨behind, same⟩
    have aligned : left ++ ' ' :: behind = right ++ ' ' :: rest := by
      simpa [pad] using same
    have cut := congrArg (List.splitOn ' ') aligned
    rw [List.splitOn_append_cons_self_of_not_mem leftWord,
      List.splitOn_append_cons_self_of_not_mem rightWord] at cut
    exact (List.cons.inj cut).1
  · rintro rfl
    exact ⟨rest, by simp [pad]⟩

namespace Table

variable {table : Table}

/-- The words that stand in the place of a word, if there is a rule for it. -/
def wordsFor? (table : Table) (word : Text) : Option (List Text) :=
  (table.rules.get? (pad word)).map fun replacement =>
    ((replacement.drop 1).dropLast).splitOn ' '

theorem hasWord_eq_isSome (table : Table) (word : Text) :
    table.hasWord word = (table.wordsFor? word).isSome := by
  simp [hasWord, Dictionary.contains, wordsFor?]

/-- Every key is a single word set between spaces, and every replacement is one or more words with
single spaces between them and at both ends. -/
def OfWords (table : Table) : Prop :=
  ∀ rule ∈ table.rules.entries, ∃ word words,
    rule = (pad word, pad (Text.joinWith ' ' words)) ∧ ' ' ∉ word ∧ words ≠ [] ∧
      ∀ part ∈ words, part ≠ [] ∧ ' ' ∉ part

theorem OfWords.get?_eq (ofWords : table.OfWords) {word : Text} {words : List Text}
    (found : table.wordsFor? word = some words) :
    table.rules.get? (pad word) = some (' ' :: spaced words) ∧ ' ' ∉ word ∧ words ≠ [] ∧
      ∀ part ∈ words, part ≠ [] ∧ ' ' ∉ part := by
  simp only [wordsFor?, Option.map_eq_some_iff] at found
  obtain ⟨replacement, located, cut⟩ := found
  obtain ⟨key, parts, same, keyWord, nonempty, clean⟩ :=
    ofWords _ (Dictionary.mem_entries_of_get? located)
  simp only [Prod.mk.injEq] at same
  obtain ⟨keySame, rfl⟩ := same
  obtain rfl := pad_injective keySame
  rw [unpad_pad, Text.splitOn_joinWith nonempty fun part member => (clean part member).2] at cut
  subst cut
  exact ⟨by rw [located, pad_joinWith nonempty], keyWord, nonempty, clean⟩

/-- At the space before a word, only the rule for that very word applies. -/
theorem OfWords.match?_word (ofWords : table.OfWords) {word : Text} (isWord : ' ' ∉ word)
    (rest : Text) :
    table.match? (' ' :: word ++ ' ' :: rest) =
      (table.wordsFor? word).map fun words => (pad word, ' ' :: spaced words) := by
  have onlyThis : table.rules.entries.filter
      (fun rule => rule.1.isPrefixOf (' ' :: word ++ ' ' :: rest)) =
        table.rules.entries.filter fun rule => rule.1 = pad word := by
    apply List.filter_congr
    intro rule member
    obtain ⟨key, parts, rfl, keyWord, -, -⟩ := ofWords rule member
    rw [Bool.eq_iff_iff, pad_isPrefixOf_iff keyWord isWord, decide_eq_true_iff]
    exact ⟨fun same => by rw [same], pad_injective⟩
  rw [match?, onlyThis, Dictionary.filter_key_eq table.rules.distinct]
  cases found : table.rules.entries.find? fun rule => decide (rule.1 = pad word) with
  | none => simp [wordsFor?, Dictionary.get?, found]
  | some rule =>
      have key : rule.1 = pad word := by simpa using List.find?_some found
      have located : table.rules.get? (pad word) = some rule.2 := by
        simp [Dictionary.get?, found]
      obtain ⟨words, spelled⟩ : ∃ words, table.wordsFor? word = some words := by
        simp [wordsFor?, located]
      have replacement := (ofWords.get?_eq spelled).1
      rw [located] at replacement
      rw [spelled]
      simp [List.maxOn?_singleton, Prod.ext_iff, key, Option.some.inj replacement]

/-- A pass over words. `blocked` says that the word before was replaced, so that the first word has
no space in front of it. -/
def passWords (table : Table) : Bool → List Text → List Text
  | _, [] => []
  | true, word :: rest => word :: table.passWords false rest
  | false, word :: rest =>
      match table.wordsFor? word with
      | some words => words ++ table.passWords true rest
      | none => word :: table.passWords false rest

/-- Both halves of a pass at once: from the space before the words on, and from behind that space
on when the word before was replaced. -/
theorem OfWords.pass_spaced_halves (ofWords : table.OfWords) {words : List Text}
    (areWords : ∀ word ∈ words, ' ' ∉ word) :
    table.pass (' ' :: spaced words) = ' ' :: spaced (table.passWords false words) ∧
      table.pass (spaced words) = spaced (table.passWords true words) := by
  induction words with
  | nil => exact ⟨table.pass_of_short (by decide), rfl⟩
  | cons word rest ih =>
      have isWord : ' ' ∉ word := areWords word (by simp)
      obtain ⟨free, blocked⟩ := ih fun next member => areWords next (by simp [member])
      have kept : table.pass (spaced (word :: rest)) =
          word ++ ' ' :: spaced (table.passWords false rest) := by
        rw [spaced_cons, table.pass_word_append isWord, free]
      refine ⟨?_, by rw [kept, passWords, spaced_cons]⟩
      have matched := ofWords.match?_word isWord (spaced rest)
      cases found : table.wordsFor? word with
      | none =>
          rw [found, Option.map_none, List.cons_append, ← spaced_cons] at matched
          rw [pass_kept matched, kept, passWords, found, spaced_cons]
      | some words =>
          have shared : ' ' :: word ++ ' ' :: spaced rest = pad word ++ spaced rest := by
            simp [pad]
          rw [found, Option.map_some, shared] at matched
          rw [spaced_cons, ← List.cons_append, shared, pass_replaced matched, blocked, passWords,
            found, List.cons_append, spaced_append]

theorem OfWords.pass_spaced (ofWords : table.OfWords) {words : List Text}
    (areWords : ∀ word ∈ words, ' ' ∉ word) :
    table.pass (' ' :: spaced words) = ' ' :: spaced (table.passWords false words) :=
  (ofWords.pass_spaced_halves areWords).1

theorem OfWords.passWords_areWords (ofWords : table.OfWords) {blocked : Bool} {words : List Text}
    (areWords : ∀ word ∈ words, ' ' ∉ word) :
    ∀ word ∈ table.passWords blocked words, ' ' ∉ word := by
  induction words generalizing blocked with
  | nil => simp [passWords]
  | cons word rest ih =>
      have restWords : ∀ next ∈ rest, ' ' ∉ next := fun next member =>
        areWords next (by simp [member])
      have isWord := areWords word (by simp)
      intro part member
      cases blocked with
      | true =>
          rcases List.mem_cons.mp member with rfl | member
          · exact isWord
          · exact ih restWords part member
      | false =>
          cases found : table.wordsFor? word with
          | none =>
              simp only [passWords, found, List.mem_cons] at member
              rcases member with rfl | member
              · exact isWord
              · exact ih restWords part member
          | some words =>
              simp only [passWords, found, List.mem_append] at member
              rcases member with member | member
              · exact ((ofWords.get?_eq found).2.2.2 part member).2
              · exact ih restWords part member

end Table

end SquareOne.Rewrite
