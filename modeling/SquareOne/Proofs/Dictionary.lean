import SquareOne.Dictionary

/-! What a dictionary holds, by way of its list of entries: a look-up finds exactly the entries, and
a list with distinct keys is kept as it is.
-/

namespace SquareOne.Dictionary

variable {Key Value : Type} [DecidableEq Key]

/-- Under distinct keys, picking out a key finds its one entry. -/
theorem filter_key_eq {entries : List (Key × Value)} (distinct : (entries.map Prod.fst).Nodup)
    (key : Key) :
    entries.filter (fun entry => entry.1 = key) =
      (entries.find? fun entry => entry.1 = key).toList := by
  induction entries with
  | nil => rfl
  | cons entry rest ih =>
      obtain ⟨fresh, restDistinct⟩ := List.nodup_cons.mp distinct
      by_cases here : entry.1 = key
      · have noMore : rest.filter (fun other => other.1 = key) = [] := by
          refine List.filter_eq_nil_iff.mpr fun other member same => fresh ?_
          rw [here, ← of_decide_eq_true same]
          exact List.mem_map_of_mem member
        simp [here, noMore]
      · simp [here, ih restDistinct]

theorem mem_entries_of_get? {dictionary : Dictionary Key Value} {key : Key} {value : Value}
    (found : dictionary.get? key = some value) : (key, value) ∈ dictionary.entries := by
  simp only [get?, Option.map_eq_some_iff] at found
  obtain ⟨entry, located, rfl⟩ := found
  have same : entry.1 = key := by simpa using List.find?_some located
  subst same
  exact List.mem_of_find?_eq_some located

theorem mem_values_of_get? {dictionary : Dictionary Key Value} {key : Key} {value : Value}
    (found : dictionary.get? key = some value) : value ∈ dictionary.values :=
  List.mem_map_of_mem (mem_entries_of_get? found)

theorem get?_eq_none_of_size {dictionary : Dictionary Key Value} (empty : dictionary.size = 0)
    (key : Key) : dictionary.get? key = none := by
  have noEntries : dictionary.entries = [] := List.eq_nil_of_length_eq_zero empty
  simp [get?, noEntries]

theorem put_of_fresh {key : Key} {value : Value} {entries : List (Key × Value)}
    (fresh : key ∉ entries.map Prod.fst) : put key value entries = entries ++ [(key, value)] := by
  induction entries with
  | nil => rfl
  | cons entry rest ih =>
      simp only [List.map_cons, List.mem_cons, not_or] at fresh
      have other : ¬entry.1 = key := fun same => fresh.1 same.symm
      simp [put, other, ih fresh.2]

theorem entries_foldl_insert {pairs : List (Key × Value)} {start : Dictionary Key Value}
    (distinct : ((start.entries ++ pairs).map Prod.fst).Nodup) :
    (pairs.foldl (fun dictionary pair => dictionary.insert pair.1 pair.2) start).entries =
      start.entries ++ pairs := by
  induction pairs generalizing start with
  | nil => simp
  | cons pair rest ih =>
      have fresh : pair.1 ∉ start.entries.map Prod.fst := by
        intro present
        rw [List.map_append, List.nodup_append] at distinct
        exact distinct.2.2 _ present _ (by simp) rfl
      have inserted : (start.insert pair.1 pair.2).entries = start.entries ++ [pair] :=
        put_of_fresh fresh
      rw [List.foldl_cons, ih (by simpa [inserted] using distinct), inserted]
      simp

theorem entries_ofList {pairs : List (Key × Value)} (distinct : (pairs.map Prod.fst).Nodup) :
    (ofList pairs).entries = pairs := by
  have empty : (Dictionary.empty : Dictionary Key Value).entries = [] := rfl
  rw [ofList, entries_foldl_insert (by simpa [empty] using distinct), empty, List.nil_append]

end SquareOne.Dictionary
