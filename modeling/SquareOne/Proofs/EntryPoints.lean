import SquareOne.CommandLine.Report
import SquareOne.Proofs.Scramble.Refusals
import SquareOne.Service

/-! The command line and the service. Both resolve a text to a state, both refuse only what is wrong
with the text, and both refuse it with the same message.
-/

namespace SquareOne

namespace Service

theorem Reply.ofFault_of_rejectsInput {fault : Fault} (rejects : fault.rejectsInput = true) :
    Reply.ofFault fault = .refused 400 fault.message := by
  rw [Fault.rejectsInput] at rejects
  rw [Reply.ofFault]
  cases kind : fault.kind <;> simp [kind] at rejects ⊢

/-- The form that asks for the state that `mode` makes of `text`. -/
def Form.ofInput (mode : Mode) (text : Text) : Form :=
  some [("input".toList, .text text), ("mode".toList, .text mode.name)]

theorem serve_ofInput (separator : Separator) (mode : Mode) (text : Text) :
    serve separator (.resolve (Form.ofInput mode text)) =
      match State.resolve mode text with
      | .ok state => .success
          (.resolved mode (state.render separator) state.top.slots state.bottom.slots)
      | .error fault => Reply.ofFault fault := by
  have input : Form.text? (Form.ofInput mode text) "input" = some text := rfl
  have asked : Form.mode? (Form.ofInput mode text) = some mode := by
    cases mode <;> rfl
  rw [serve]
  simp only [input, asked]
  cases State.resolve mode text <;> rfl

theorem separatorOf_char (separator : Separator) :
    separatorOf (some [separator.char]) = .ok separator := by
  cases separator <;> rfl

end Service

namespace CommandLine

theorem Argument.ofTexts_cons {first : Text} {argument : Argument} (notEnd : first ≠ ['-', '-'])
    (read : ofText first = .ok argument) (rest : List Text) :
    ofTexts (first :: rest) = (ofTexts rest).map (argument :: ·) := by
  rw [ofTexts, if_neg notEnd, bind_ok read]
  cases ofTexts rest <;> rfl

/-- The option that a text of the given mode is the value of. -/
def sourceName : Mode → Text
  | .scramble => "--scramble".toList
  | .inverse => "--alg".toList
  | .hex => "--hex".toList

namespace Request

variable {request : Request}

/-- Arguments that ask for a request, the text joined to its option. -/
def arguments (request : Request) : List Text :=
  (sourceName request.mode ++ '=' :: request.text) :: "--separator".toList ::
    [request.separator.char] :: ((if request.expanded then ["--expanded".toList] else []) ++
      if request.verbose then ["--verbose".toList] else [])

theorem ofTexts_arguments (request : Request) :
    Argument.ofTexts request.arguments =
      .ok (.option (.source request.mode) (some request.text) :: .option .separator none ::
        .value [request.separator.char] ::
          ((if request.expanded then [.option .expanded none] else []) ++
            if request.verbose then [.option .verbose none] else [])) := by
  obtain ⟨mode, text, separator, expanded, verbose⟩ := request
  have source : Argument.ofText (sourceName mode ++ '=' :: text) =
      .ok (.option (.source mode) (some text)) := by
    cases mode <;> rfl
  have sourceLong : sourceName mode ++ '=' :: text ≠ ['-', '-'] := by
    intro same
    have member : '=' ∈ ['-', '-'] := same ▸ List.mem_append_right _ List.mem_cons_self
    exact absurd member (by decide)
  have option : Argument.ofText "--separator".toList = .ok (.option .separator none) := rfl
  have value : Argument.ofText [separator.char] = .ok (.value [separator.char]) := by
    cases separator <;> rfl
  have flags : Argument.ofTexts ((if expanded then ["--expanded".toList] else []) ++
      if verbose then ["--verbose".toList] else []) =
      .ok ((if expanded then [.option .expanded none] else []) ++
        if verbose then [.option .verbose none] else []) := by
    cases expanded <;> cases verbose <;> rfl
  rw [arguments, Argument.ofTexts_cons sourceLong source,
    Argument.ofTexts_cons (by decide) option, Argument.ofTexts_cons (by simp) value, flags]
  rfl

/-- A request is read off its arguments again, unless its text is the one that counts as left
out. -/
theorem ofArguments_arguments (handedOver : request.text ≠ ['-', '-']) :
    ofArguments request.arguments = .ok (.ok request) := by
  have joined : Draft.joinedValue request.text = some request.text := if_neg handedOver
  rw [ofArguments, bind_ok (ofTexts_arguments request), Draft.read, joined]
  obtain ⟨mode, text, separator, expanded, verbose⟩ := request
  cases separator <;> cases expanded <;> cases verbose <;> rfl

theorem showsExpansion_eq_false (hex : request.mode = .hex) : request.showsExpansion = false := by
  rw [showsExpansion, hex]
  exact Bool.and_false _

/-- The expansion that is shown ahead of a state is one that the state was found by, so there is
nothing more to refuse behind it. -/
theorem expansionLines_of_resolve {state : State}
    (resolved : State.resolve request.mode request.text = .ok state) :
    ∃ shown, request.expansionLines = .ok shown := by
  rw [expansionLines]
  by_cases shows : request.showsExpansion = true
  · have notHex : request.mode ≠ .hex := fun hex =>
      absurd (shows.symm.trans (showsExpansion_eq_false hex)) (by decide)
    rw [if_pos shows]
    cases expanded : Scramble.expand request.text with
    | error fault =>
        rw [(State.resolve_eq_error_iff notHex).mpr expanded] at resolved
        cases resolved
    | ok expansion => exact ⟨_, rfl⟩
  · exact ⟨_, if_neg shows⟩

theorem carryOut_of_resolve {state : State}
    (resolved : State.resolve request.mode request.text = .ok state) :
    ∃ shown, request.expansionLines = .ok shown ∧
      request.carryOut =
        .ok ⟨0, shown ++ [state.render request.separator], request.notes⟩ := by
  obtain ⟨shown, lines⟩ := expansionLines_of_resolve resolved
  have line : request.stateLine = .ok (state.render request.separator) := by
    rw [stateLine, bind_ok resolved]
    rfl
  refine ⟨shown, lines, ?_⟩
  simp only [carryOut, lines, line]

theorem carryOut_of_refused {fault : Fault}
    (refused : State.resolve request.mode request.text = .error fault) :
    request.carryOut =
      .ok ⟨2, [], request.notes ++ ["error: ".toList ++ fault.message]⟩ := by
  have rejects := State.rejectsInput_of_resolve refused
  have report : carryOut.refuse request [] fault =
      .ok ⟨2, [], request.notes ++ ["error: ".toList ++ fault.message]⟩ := if_pos rejects
  rw [← report, carryOut]
  by_cases shows : request.showsExpansion = true
  · have notHex : request.mode ≠ .hex := fun hex =>
      absurd (shows.symm.trans (showsExpansion_eq_false hex)) (by decide)
    -- The expansion that is to be shown is refused itself, so nothing has been shown yet.
    have lines : request.expansionLines = .error fault := by
      rw [expansionLines, if_pos shows,
        bind_error ((State.resolve_eq_error_iff notHex).mp refused)]
    rw [lines]
  · have lines : request.expansionLines = .ok [] := if_neg shows
    have line : request.stateLine = .error fault := by
      rw [stateLine, bind_error refused]
    rw [lines, line]

end Request

/-- The command line and the service give the same answer to the same text. Either both find its
state, whose wire form is the last line that the one shows and what the other replies, with the two
layers behind it; or both refuse it with the same message, the one with exit code 2 and nothing
shown, the other with status 400. -/
theorem run_serve_agree (mode : Mode) (text : Text) (separator : Separator) (expanded : Bool) :
    let request : Request := ⟨mode, text, separator, expanded, false⟩
    let reply := Service.serve separator (.resolve (Service.Form.ofInput mode text))
    (text ≠ ['-', '-'] → run request.arguments = request.carryOut.map .reported) ∧
      Service.separatorOf (some [separator.char]) = .ok separator ∧
      ((∃ state shown, State.resolve mode text = .ok state ∧
          request.carryOut = .ok ⟨0, shown ++ [state.render separator], []⟩ ∧
          reply = .success
            (.resolved mode (state.render separator) state.top.slots state.bottom.slots)) ∨
        ∃ fault, State.resolve mode text = .error fault ∧ fault.rejectsInput = true ∧
          request.carryOut = .ok ⟨2, [], ["error: ".toList ++ fault.message]⟩ ∧
          reply = .refused 400 fault.message) := by
  intro request reply
  have served : reply = _ := Service.serve_ofInput separator mode text
  refine ⟨fun handedOver => ?_, Service.separatorOf_char separator, ?_⟩
  · rw [run, @Request.ofArguments_arguments request handedOver]
  · cases resolved : State.resolve mode text with
    | ok state =>
        obtain ⟨shown, -, report⟩ := @Request.carryOut_of_resolve request state resolved
        rw [resolved] at served
        exact .inl ⟨state, shown, rfl, report, served⟩
    | error fault =>
        have rejects := State.rejectsInput_of_resolve resolved
        have report := @Request.carryOut_of_refused request fault resolved
        rw [resolved] at served
        exact .inr ⟨fault, rfl, rejects, report,
          served.trans (Service.Reply.ofFault_of_rejectsInput rejects)⟩

theorem run_serve_agree_overlong :
    run ["--alg=12345".toList, "--separator".toList, ['/'], "--expanded".toList] =
        .ok (.reported ⟨2, [], ["error: Unrecognized move '12345' at token 0".toList]⟩) ∧
      Service.serve .slash (.resolve (Service.Form.ofInput .inverse "12345".toList)) =
        .refused 400 "Unrecognized move '12345' at token 0".toList := by
  have long : Scramble.overlong? ((Scramble.Layout.ofText "12345".toList).joined ' ') =
      some ("12345".toList, 0) := by decide +kernel
  have refused : State.resolve .inverse "12345".toList =
      .error (.unrecognizedWord "12345".toList 0) := by
    rw [State.resolve_eq_error_iff (by decide), Scramble.expand_eq_expanded,
      Scramble.Layout.expanded, long]
    rfl
  obtain ⟨handedOver, -, found | ⟨fault, met, -, report, reply⟩⟩ :=
    run_serve_agree .inverse "12345".toList .slash true
  · obtain ⟨state, -, resolved, -⟩ := found
    rw [refused] at resolved
    cases resolved
  · rw [refused] at met
    cases met
    have ran := handedOver (by decide)
    rw [report] at ran
    exact ⟨ran, reply⟩

end CommandLine

end SquareOne
