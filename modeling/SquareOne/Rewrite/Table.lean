import SquareOne.Dictionary
import SquareOne.Fault

/-! Tables of rewrite rules. Every key has a space at both ends, so that it only ever matches whole
words.
-/

namespace SquareOne.Rewrite

/-- Sets a text between two spaces. -/
def pad (text : Text) : Text :=
  ' ' :: text ++ [' ']

/-- Whether a key has a space at both ends and something between them. -/
def isPadded (key : Text) : Bool :=
  3 ≤ key.length && key.head? == some ' ' && key.getLast? == some ' '

theorem isPadded_pad {text : Text} (nonempty : text ≠ []) : isPadded (pad text) = true := by
  have := List.length_pos_iff.mpr nonempty
  simp only [isPadded, pad, Bool.and_eq_true]
  refine ⟨⟨?_, by simp⟩, ?_⟩
  · simp; omega
  · simp [List.getLast?_cons, List.getLast?_append]

/-- Keys and what replaces them. -/
structure Table where
  rules : Dictionary Text Text
  padded : ∀ key ∈ rules.keys, isPadded key = true

namespace Table

/-- The table of the given rules, the last one for a key counting. -/
def ofRules (rules : List (Text × Text))
    (padded : ∀ key ∈ rules.map Prod.fst, isPadded key = true) : Table :=
  ⟨Dictionary.ofList rules, fun key member => padded key (Dictionary.mem_keys_ofList.mp member)⟩

/-- The table of the given rules, refused at the first key that is not set between spaces. -/
def ofList (rules : List (Text × Text)) : Except Fault Table :=
  match first : rules.find? fun rule => !isPadded rule.1 with
  | some rule => .error (.unpaddedKey rule.1)
  | none =>
      .ok <| ofRules rules fun key member => by
        obtain ⟨rule, ruleMember, rfl⟩ := List.mem_map.mp member
        simpa using List.find?_eq_none.mp first rule ruleMember

/-- Whether a word by itself is replaced. -/
def hasWord (table : Table) (word : Text) : Bool :=
  table.rules.contains (pad word)

def lookup (table : Table) (key : Text) : Except Fault Text :=
  match table.rules.get? key with
  | some replacement => .ok replacement
  | none => .error (.missingKey key)

/-- The rules in the order of their keys. -/
def sortedRules (table : Table) : List (Text × Text) :=
  table.rules.entries.mergeSort fun first second => first.1.precedes second.1

/-- The rule with the longest key that `subject` starts with. -/
def match? (table : Table) (subject : Text) : Option (Text × Text) :=
  (table.rules.entries.filter fun rule => rule.1.isPrefixOf subject).maxOn? fun rule =>
    rule.1.length

end Table

end SquareOne.Rewrite
