import SquareOne.Proofs.Puzzle.WireForm
import SquareOne.Proofs.Scramble.Refusals
import SquareOne.Session

/-! What holds all through a session. A step makes moves or reads a wire form, and either leaves
hexadecimal digits in lower case in all slots, so that every state can be written and read again.
-/

namespace SquareOne

namespace State

theorem obeyAll_eq_ok {state next : State} {instructions : List Instruction}
    (obeyed : state.obeyAll instructions = .ok next) : ∃ moves, next = state.applyAll moves := by
  induction instructions generalizing state with
  | nil =>
      cases obeyed
      exact ⟨[], rfl⟩
  | cons instruction rest ih =>
      cases instruction with
      | move move =>
          obtain ⟨moves, rfl⟩ := @ih (state.apply move) obeyed
          exact ⟨move :: moves, rfl⟩
      | foreign label => cases obeyed

theorem obeyAll_eq_error {state : State} {instructions : List Instruction} {fault : Fault}
    (refused : state.obeyAll instructions = .error fault) :
    ∃ label, fault = .foreignMove label := by
  induction instructions generalizing state with
  | nil => cases refused
  | cons instruction rest ih =>
      cases instruction with
      | move move => exact @ih (state.apply move) refused
      | foreign label =>
          cases refused
          exact ⟨label, rfl⟩

end State

namespace Scramble

theorem compile_eq_ok {scramble : Text} {start next : State}
    (compiled : compile scramble start = .ok next) : ∃ moves, next = start.applyAll moves := by
  cases expanded : expand scramble with
  | error fault =>
      rw [compile_eq_error.mpr expanded] at compiled
      cases compiled
  | ok expansion =>
      rw [compile_of_expand expanded] at compiled
      cases compiled
      exact ⟨_, rfl⟩

theorem compileInverse_eq_ok {scramble : Text} {start next : State}
    (compiled : compileInverse scramble start = .ok next) :
    ∃ moves, next = start.applyAll moves := by
  cases expanded : expand scramble with
  | error fault =>
      rw [compileInverse_eq_error.mpr expanded] at compiled
      cases compiled
  | ok expansion =>
      rw [compileInverse_of_expand expanded] at compiled
      cases compiled
      exact ⟨_, rfl⟩

theorem kind_of_expand {scramble : Text} {fault : Fault}
    (refused : expand scramble = .error fault) :
    fault.kind ≠ .malformedState := by
  rcases expand_eq_error refused with ⟨word, position, rfl⟩ | ⟨name, alignment, rfl⟩ <;>
    simp [Fault.kind]

end Scramble

namespace Step

variable {step : Step} {state next : State} {answer : Answer} {fault : Fault}

/-- All that a step can do to the state: it makes moves, none of them perhaps, or it puts the state
of a wire form in its place. -/
theorem take_eq_ok (taken : step.take state = .ok (next, answer)) :
    (∃ moves, next = state.applyAll moves) ∨ ∃ wire, State.parse wire = .ok next := by
  cases step with
  | compile scramble =>
      obtain ⟨made, compiled, same⟩ := bind_eq_ok taken
      cases same
      exact .inl (Scramble.compile_eq_ok compiled)
  | compileInverse scramble =>
      obtain ⟨made, compiled, same⟩ := bind_eq_ok taken
      cases same
      exact .inl (Scramble.compileInverse_eq_ok compiled)
  | moves text =>
      cases taken
      exact .inl ⟨_, rfl⟩
  | invertedMoves text =>
      cases taken
      exact .inl ⟨_, rfl⟩
  | obey instructions =>
      obtain ⟨made, obeyed, same⟩ := bind_eq_ok taken
      cases same
      exact .inl (State.obeyAll_eq_ok obeyed)
  | place wire =>
      obtain ⟨made, read, same⟩ := bind_eq_ok taken
      cases same
      exact .inr ⟨wire, read⟩
  | rotate top bottom =>
      cases taken
      exact .inl ⟨[.turn ⟨top, bottom⟩], rfl⟩
  | swapHalves =>
      cases taken
      exact .inl ⟨[.swap], rfl⟩
  | expand scramble =>
      obtain ⟨expansion, -, same⟩ := bind_eq_ok taken
      cases same
      exact .inl ⟨[], rfl⟩
  | listPieces =>
      cases taken
      exact .inl ⟨[], rfl⟩
  | render separator =>
      obtain ⟨found, -, same⟩ := bind_eq_ok taken
      cases same
      exact .inl ⟨[], rfl⟩
  | compare wire =>
      obtain ⟨other, -, same⟩ := bind_eq_ok taken
      cases same
      exact .inl ⟨[], rfl⟩

theorem isHex_of_take (hex : state.IsHex) (taken : step.take state = .ok (next, answer)) :
    next.IsHex := by
  rcases take_eq_ok taken with ⟨moves, rfl⟩ | ⟨wire, read⟩
  · exact State.isHex_applyAll hex moves
  · exact State.isHex_of_parse read

theorem refused_of_bind {α : Type} {first : Except Fault α} {last : α → State × Answer}
    (refused : (do return last (← first)) = Except.error fault) : first = .error fault := by
  rcases bind_eq_error refused with same | ⟨value, -, made⟩
  · exact same
  · cases made

/-- Only reading a wire form finds a malformed state. -/
theorem take_malformed (refused : step.take state = .error fault)
    (malformed : fault.kind = .malformedState) :
    ∃ wire, step = .place wire ∨ step = .compare wire := by
  cases step with
  | place wire => exact ⟨wire, .inl rfl⟩
  | compare wire => exact ⟨wire, .inr rfl⟩
  | compile scramble =>
      have expanded := Scramble.compile_eq_error.mp (refused_of_bind refused)
      exact absurd malformed (Scramble.kind_of_expand expanded)
  | compileInverse scramble =>
      have expanded := Scramble.compileInverse_eq_error.mp (refused_of_bind refused)
      exact absurd malformed (Scramble.kind_of_expand expanded)
  | expand scramble =>
      exact absurd malformed (Scramble.kind_of_expand (refused_of_bind refused))
  | obey instructions =>
      obtain ⟨label, rfl⟩ := State.obeyAll_eq_error (refused_of_bind refused)
      cases malformed
  | render separator =>
      have unknown := refused_of_bind refused
      rw [Separator.ofText] at unknown
      split at unknown
      · cases unknown
      · split at unknown <;> cases unknown
        cases malformed
  | moves text => cases refused
  | invertedMoves text => cases refused
  | rotate top bottom => cases refused
  | swapHalves => cases refused
  | listPieces => cases refused

end Step

namespace Session

variable {state : State} {steps : List Step}

/-- The states of a session, the one that it starts from included. -/
def visited (state : State) (steps : List Step) : List State :=
  state :: (run state steps).map Prod.fst

theorem visited_cons (step : Step) (rest : List Step) :
    ∃ next, visited state (step :: rest) = state :: visited next rest ∧
      (next = state ∨ ∃ answer, step.take state = .ok (next, answer)) := by
  cases taken : step.take state with
  | ok made =>
      obtain ⟨next, answer⟩ := made
      exact ⟨next, by simp only [visited, run, taken, List.map_cons], .inr ⟨answer, rfl⟩⟩
  | error fault => exact ⟨state, by simp only [visited, run, taken, List.map_cons], .inl rfl⟩

theorem isHex_visited (hex : state.IsHex) : ∀ found ∈ visited state steps, found.IsHex := by
  induction steps generalizing state with
  | nil => exact List.forall_mem_singleton.mpr hex
  | cons step rest ih =>
      obtain ⟨next, cut, reached⟩ := @visited_cons state step rest
      have nextHex : next.IsHex := by
        rcases reached with rfl | ⟨answer, taken⟩
        · exact hex
        · exact Step.isHex_of_take hex taken
      rw [cut]
      exact List.forall_mem_cons.mpr ⟨hex, ih nextHex⟩

/-- A step that is refused is refused in the state that it leaves behind. -/
theorem take_of_mem_zip {step : Step} {after : State} {fault : Fault}
    (member : (step, after, .error fault) ∈ steps.zip (run state steps)) :
    step.take after = .error fault := by
  induction steps generalizing state with
  | nil => simp [run] at member
  | cons first rest ih =>
      cases taken : first.take state with
      | ok made =>
          simp only [run, taken, List.zip_cons_cons] at member
          rcases List.mem_cons.mp member with same | later
          · cases same
          · exact ih later
      | error other =>
          simp only [run, taken, List.zip_cons_cons] at member
          rcases List.mem_cons.mp member with same | later
          · cases same
            exact taken
          · exact ih later

/-- In every state of a session that starts out solved both layers hold twelve hexadecimal digits in
lower case, moves pass every check of the lengths, and either wire form reads back as the state.
A malformed state is only ever found in a wire form that is read. -/
theorem visited_readable (steps : List Step) :
    (∀ state ∈ visited .solved steps,
      (state.top.slots.length = 12 ∧ state.bottom.slots.length = 12 ∧
        ∀ symbol ∈ state.top.slots ++ state.bottom.slots, symbol ∈ "0123456789abcdef".toList) ∧
      (∀ moves : List Move, moves.foldlM State.applyChecked state = .ok (state.applyAll moves)) ∧
      ∀ separator, State.parse (state.render separator) = .ok state) ∧
    ∀ step state fault, (step, state, .error fault) ∈ steps.zip (run .solved steps) →
      fault.kind = .malformedState → ∃ wire, step = .place wire ∨ step = .compare wire := by
  constructor
  · intro state member
    have hex := isHex_visited State.isHex_solved state member
    exact ⟨⟨state.top.full, state.bottom.full, hex⟩, state.foldlM_applyChecked,
      State.parse_render hex⟩
  · intro step state fault member malformed
    exact Step.take_malformed (take_of_mem_zip member) malformed

theorem visited_readable_capitals :
    let steps : List Step := [.place "011233998BBA455677/ddcffe ".toList, .place "0".toList]
    ∃ state fault, state ∈ visited .solved steps ∧ state.top.slots = "011233998bba".toList ∧
      State.parse (state.render .slash) = .ok state ∧
      (.place "0".toList, state, .error fault) ∈ steps.zip (run .solved steps) ∧
      fault.kind = .malformedState ∧ ∃ wire, Step.place "0".toList = .place wire := by
  intro steps
  have first : (Step.place "011233998BBA455677/ddcffe ".toList).take .solved =
      .ok (State.solved.swapHalves, .done) := rfl
  have second : (Step.place "0".toList).take State.solved.swapHalves =
      .error (.stateLength 1) := rfl
  have ran : run .solved steps =
      [(State.solved.swapHalves, .ok .done),
        (State.solved.swapHalves, .error (.stateLength 1))] := by
    simp only [steps, run, first, second]
  obtain ⟨readable, malformed⟩ := visited_readable steps
  have member : State.solved.swapHalves ∈ visited .solved steps := by
    rw [visited, ran]
    simp
  have refused : (Step.place "0".toList, State.solved.swapHalves, .error (.stateLength 1)) ∈
      steps.zip (run .solved steps) := by
    rw [ran]
    simp [steps]
  obtain ⟨wire, placed | compared⟩ := malformed _ _ _ refused rfl
  · exact ⟨_, _, member, rfl, (readable _ member).2.2 .slash, refused, rfl, wire, placed⟩
  · cases compared

end Session

end SquareOne
