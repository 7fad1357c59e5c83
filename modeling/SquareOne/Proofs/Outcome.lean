import SquareOne.Fault

/-! Computations that give a value or a fault, one after another: what is known of the parts when
something is known of the whole.
-/

namespace SquareOne

section Bind

variable {ε α β : Type} {first : Except ε α} {next : α → Except ε β}

theorem bind_ok {value : α} (made : first = .ok value) (next : α → Except ε β) :
    first >>= next = next value := by
  rw [made]
  rfl

theorem bind_error {fault : ε} (refused : first = .error fault) (next : α → Except ε β) :
    first >>= next = .error fault := by
  rw [refused]
  rfl

theorem bind_eq_ok {result : β} (made : first >>= next = .ok result) :
    ∃ value, first = .ok value ∧ next value = .ok result := by
  cases first with
  | error fault => cases made
  | ok value => exact ⟨value, rfl, made⟩

theorem bind_eq_error {fault : ε} (refused : first >>= next = .error fault) :
    first = .error fault ∨ ∃ value, first = .ok value ∧ next value = .error fault := by
  cases first with
  | error other =>
      cases refused
      exact .inl rfl
  | ok value => exact .inr ⟨value, rfl, refused⟩

end Bind

section ForM

variable {ε α : Type} {check : α → Except ε Unit} {items : List α}

/-- A list passes when all of its items do. -/
theorem forM_eq_ok_iff : items.forM check = .ok () ↔ ∀ item ∈ items, check item = .ok () := by
  induction items with
  | nil => exact ⟨fun _ _ member => (List.not_mem_nil member).elim, fun _ => rfl⟩
  | cons item rest ih =>
      rw [List.forall_mem_cons]
      constructor
      · intro passed
        obtain ⟨⟨⟩, head, tail⟩ := bind_eq_ok passed
        exact ⟨head, ih.mp tail⟩
      · rintro ⟨head, tail⟩
        exact (bind_ok head _).trans (ih.mpr tail)

/-- A list is refused for the first of its items that is. -/
theorem forM_eq_error {fault : ε} (refused : items.forM check = .error fault) :
    ∃ before item after, items = before ++ item :: after ∧
      (∀ other ∈ before, check other = .ok ()) ∧ check item = .error fault := by
  induction items with
  | nil => cases refused
  | cons first rest ih =>
      rcases bind_eq_error refused with head | ⟨⟨⟩, passed, tail⟩
      · exact ⟨[], first, rest, rfl, List.forall_mem_nil _, head⟩
      · obtain ⟨before, item, after, rfl, others, found⟩ := ih tail
        exact ⟨first :: before, item, after, rfl, List.forall_mem_cons.mpr ⟨passed, others⟩, found⟩

end ForM

end SquareOne
