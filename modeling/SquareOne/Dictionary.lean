/-! Finite maps that keep the order in which their keys came in.

A key has one entry. Entering it again changes the value and leaves the key in its place.
-/

namespace SquareOne

structure Dictionary (Key : Type) (Value : Type) where
  entries : List (Key × Value)
  distinct : (entries.map Prod.fst).Nodup

namespace Dictionary

variable {Key Value : Type} [DecidableEq Key]

/-- `entries` with `value` under `key`, in the place of the key or else at the end. -/
def put (key : Key) (value : Value) : List (Key × Value) → List (Key × Value)
  | [] => [(key, value)]
  | entry :: rest => if entry.1 = key then (key, value) :: rest else entry :: put key value rest

theorem keys_put (key : Key) (value : Value) (entries : List (Key × Value)) :
    (put key value entries).map Prod.fst =
      if key ∈ entries.map Prod.fst then entries.map Prod.fst
      else entries.map Prod.fst ++ [key] := by
  induction entries with
  | nil => simp [put]
  | cons entry rest ih =>
      by_cases same : entry.1 = key
      · simp [put, same]
      · have other : key ≠ entry.1 := fun equal => same equal.symm
        simp only [put, if_neg same, List.map_cons, ih, List.mem_cons, other, false_or]
        split <;> simp

def empty : Dictionary Key Value :=
  ⟨[], List.nodup_nil⟩

def insert (dictionary : Dictionary Key Value) (key : Key) (value : Value) :
    Dictionary Key Value where
  entries := put key value dictionary.entries
  distinct := by
    rw [keys_put]
    split
    · exact dictionary.distinct
    · rename_i absent
      refine List.nodup_append.mpr ⟨dictionary.distinct, by simp, ?_⟩
      intro left leftMember right rightMember equal
      rw [List.mem_singleton.mp rightMember] at equal
      exact absent (equal ▸ leftMember)

def ofList (pairs : List (Key × Value)) : Dictionary Key Value :=
  pairs.foldl (fun dictionary pair => dictionary.insert pair.1 pair.2) empty

def get? (dictionary : Dictionary Key Value) (key : Key) : Option Value :=
  (dictionary.entries.find? fun entry => entry.1 = key).map Prod.snd

def keys (dictionary : Dictionary Key Value) : List Key :=
  dictionary.entries.map Prod.fst

def values (dictionary : Dictionary Key Value) : List Value :=
  dictionary.entries.map Prod.snd

def size (dictionary : Dictionary Key Value) : Nat :=
  dictionary.entries.length

def contains (dictionary : Dictionary Key Value) (key : Key) : Bool :=
  (dictionary.get? key).isSome

theorem find?_put (key other : Key) (value : Value) (entries : List (Key × Value)) :
    ((put key value entries).find? fun entry => entry.1 = other).map Prod.snd =
      if other = key then some value
      else (entries.find? fun entry => entry.1 = other).map Prod.snd := by
  induction entries with
  | nil => by_cases same : other = key <;> simp [put, same, eq_comm]
  | cons entry rest ih =>
      by_cases here : entry.1 = key
      · by_cases same : other = key
        · simp [put, here, same]
        · have apart : ¬key = other := fun equal => same equal.symm
          simp [put, here, same, apart]
      · by_cases found : entry.1 = other
        · have apart : ¬other = key := fun equal => here (found.trans equal)
          simp [put, found, apart]
        · simpa [put, here, found] using ih

theorem get?_insert (dictionary : Dictionary Key Value) (key other : Key) (value : Value) :
    (dictionary.insert key value).get? other =
      if other = key then some value else dictionary.get? other :=
  find?_put key other value dictionary.entries

theorem mem_keys_insert {dictionary : Dictionary Key Value} {key other : Key} {value : Value} :
    other ∈ (dictionary.insert key value).keys ↔ other ∈ dictionary.keys ∨ other = key := by
  simp only [keys, insert, keys_put]
  split
  · rename_i present
    constructor
    · exact Or.inl
    · rintro (member | rfl)
      · exact member
      · exact present
  · simp

theorem mem_keys_foldl_insert {pairs : List (Key × Value)} {start : Dictionary Key Value}
    {key : Key} :
    key ∈ (pairs.foldl (fun dictionary pair => dictionary.insert pair.1 pair.2) start).keys ↔
      key ∈ start.keys ∨ key ∈ pairs.map Prod.fst := by
  induction pairs generalizing start with
  | nil => simp
  | cons pair rest ih => rw [List.foldl_cons, ih, mem_keys_insert]; simp [or_assoc]

theorem mem_keys_ofList {pairs : List (Key × Value)} {key : Key} :
    key ∈ (ofList pairs).keys ↔ key ∈ pairs.map Prod.fst := by
  rw [ofList, mem_keys_foldl_insert]
  simp [keys, empty]

end Dictionary

end SquareOne
