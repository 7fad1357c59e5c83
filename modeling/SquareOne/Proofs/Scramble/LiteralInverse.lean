import SquareOne.Proofs.Scramble.Literal

/-! The inverse of a literal scramble, made on its text. -/

namespace SquareOne

namespace Scramble

open SquareOne.Part (negateList)

theorem negateTurns_of_encloses {text word : Text} (encloses : Encloses text word)
    (isPair : IsPair word) : Encloses (negateTurns text) (negateList word) := by
  rcases encloses with rfl | rfl
  · exact .inl (negateTurns_of_isPair isPair)
  · right
    rw [negateTurns, List.cons_append, Part.ofText_group fun char member => (isPair.1.2 char member).2]
    exact List.append_nil _

theorem IsFragment.negateTurns {text : Text} (fragment : IsFragment text) :
    IsFragment (negateTurns text) ∧ (negateTurns text).isEmpty = text.isEmpty ∧
      (text ≠ [] → bare (negateTurns text) = negateList (bare text)) := by
  rcases fragment with rfl | ⟨word, isPair, encloses⟩
  · exact ⟨.inl rfl, rfl, fun nonempty => absurd rfl nonempty⟩
  · have negated := negateTurns_of_encloses encloses isPair
    have negatedPair := Part.isPair_negateList isPair
    have someText := encloses.ne_nil isPair.1
    have someNegated := negated.ne_nil negatedPair.1
    refine ⟨.inr ⟨_, negatedPair, negated⟩, ?_, fun _ => ?_⟩
    · rw [List.isEmpty_eq_false_iff.mpr someText, List.isEmpty_eq_false_iff.mpr someNegated]
    · rw [negated.bare_eq negatedPair.1, encloses.bare_eq isPair.1]

theorem Layout.ofFragments_reversed {fragments : List Text}
    (areFragments : ∀ fragment ∈ fragments, IsFragment fragment) :
    ofFragments (fragments.reverse.map negateTurns) = (ofFragments fragments).reversed := by
  have isEmpty : ∀ text, some text ∈ [fragments.head?, fragments.getLast?] →
      (negateTurns text == []) = (text == []) := by
    intro text atEnd
    have member : text ∈ fragments := by
      rcases List.mem_pair.mp atEnd with first | last
      · exact List.mem_of_head? first.symm
      · exact List.mem_of_getLast? last.symm
    have kept := (areFragments text member).negateTurns.2.1
    simpa using kept
  have lead : ((fragments.reverse.map negateTurns).head? == some []) =
      (fragments.getLast? == some []) := by
    rw [List.head?_map, List.head?_reverse]
    cases last : fragments.getLast? with
    | none => rfl
    | some text => simpa using isEmpty text (by simp [last])
  have trail : ((fragments.reverse.map negateTurns).getLast? == some []) =
      (fragments.head? == some []) := by
    rw [List.getLast?_map, List.getLast?_reverse]
    cases first : fragments.head? with
    | none => rfl
    | some text => simpa using isEmpty text (by simp [first])
  have words : ((fragments.reverse.map negateTurns).filter fun text => !text.isEmpty).map bare =
      ((fragments.filter fun text => !text.isEmpty).map bare).reverse.map negateList := by
    have keeps : fragments.reverse.filter ((fun text => !text.isEmpty) ∘ negateTurns) =
        fragments.reverse.filter fun text => !text.isEmpty := by
      refine List.filter_congr fun text member => ?_
      have kept := (areFragments text (List.mem_reverse.mp member)).negateTurns.2.1
      simp only [Function.comp_apply, kept]
    rw [List.filter_map, keeps, ← List.map_reverse, ← List.filter_reverse, List.map_map,
      List.map_map]
    refine List.map_congr_left fun text member => ?_
    obtain ⟨inFragments, nonempty⟩ := List.mem_filter.mp member
    exact (areFragments text (List.mem_reverse.mp inFragments)).negateTurns.2.2
      (by simpa using nonempty)
  rw [ofFragments, ofFragments, reversed, lead, trail, words, List.length_map, List.length_reverse]

theorem Spaced.invert_eq {fragments : List Text} (spaced : Spaced fragments) :
    invert (Text.joinWith '/' fragments) =
      Text.joinWith '/' ((fragments.map Text.trim).reverse.map negateTurns) := by
  by_cases empty : fragments = []
  · subst empty
    rfl
  · have clean : ∀ fragment ∈ fragments, '/' ∉ fragment := by
      intro fragment member inFragment
      obtain ⟨front, back, whole, frontBlank, backBlank⟩ := Text.exists_trim fragment
      rw [whole, List.mem_append, List.mem_append] at inFragment
      rcases inFragment with inFront | inTrimmed | inBack
      · exact absurd (frontBlank _ inFront) (by decide)
      · exact (spaced.areFragments fragment member).no_slash inTrimmed
      · exact absurd (backBlank _ inBack) (by decide)
    rw [Scramble.invert_eq, Scramble.fragments, Text.splitOn_joinWith empty clean]

theorem Spaced.expand_invert_eq {fragments : List Text} (spaced : Spaced fragments) :
    expand (invert (Text.joinWith '/' fragments)) =
      .ok ((Layout.ofFragments (fragments.map Text.trim)).reversed.joined '/') := by
  have areFragments : ∀ text ∈ fragments.map Text.trim, IsFragment text := by
    intro text member
    obtain ⟨fragment, fragmentMember, rfl⟩ := List.mem_map.mp member
    exact spaced.areFragments fragment fragmentMember
  have negated : ∀ text ∈ (fragments.map Text.trim).reverse.map negateTurns, IsFragment text := by
    intro text member
    obtain ⟨fragment, fragmentMember, rfl⟩ := List.mem_map.mp member
    exact (areFragments fragment (List.mem_reverse.mp fragmentMember)).negateTurns.1
  obtain ⟨negatedSpaced, trimmed⟩ := spaced_of_areFragments negated
  rw [spaced.invert_eq, negatedSpaced.expand_eq, trimmed, Layout.ofFragments_reversed areFragments]

/-- A text of literal turns, slashes and blanks: between two slashes stands at most one turn, and
every blank stands beside a slash or beside other blanks that do. -/
structure IsLiteral (scramble : Text) : Prop where
  turns : ∀ fragment ∈ scramble.splitOn '/',
    Text.trim fragment = [] ∨ IsLiteralTurn (Text.trim fragment)
  starts : ∀ fragment, (scramble.splitOn '/').head? = some fragment →
    fragment.head?.any Text.isBlank = false ∨ Text.trim fragment = [] ∧ '/' ∈ scramble
  ends : ∀ fragment, (scramble.splitOn '/').getLast? = some fragment →
    fragment.getLast?.any Text.isBlank = false ∨ Text.trim fragment = [] ∧ '/' ∈ scramble

theorem IsLiteral.spaced {scramble : Text} (literal : IsLiteral scramble) :
    Spaced (scramble.splitOn '/') where
  areFragments := fun fragment member =>
    (literal.turns fragment member).elim .inl IsLiteralTurn.isFragment
  starts := fun fragment first =>
    (literal.starts fragment first).imp_right (And.imp_right Text.one_lt_length_splitOn)
  ends := fun fragment last =>
    (literal.ends fragment last).imp_right (And.imp_right Text.one_lt_length_splitOn)

/-- The inverse of a literal scramble, made on its text, takes the scramble back from every
state. -/
theorem compile_invert {scramble : Text} (literal : IsLiteral scramble) (start : State) :
    ∃ scrambled, compile scramble start = .ok scrambled ∧
      compile (invert scramble) scrambled = .ok start := by
  have spaced := literal.spaced
  have forth := spaced.expand_eq
  have back := spaced.expand_invert_eq
  rw [Text.joinWith_splitOn] at forth back
  have undone := State.applyAll_inverses start
    (Move.readAll ((Layout.ofFragments ((scramble.splitOn '/').map Text.trim)).joined '/'))
  refine ⟨_, compile_of_expand forth start, ?_⟩
  rw [compile_of_expand back, Layout.readAll_reversed spaced.isCanonical, undone]

theorem compile_invert_slashes :
    IsLiteral "(1,0) // -2,3".toList ∧
      ∃ scrambled, compile "(1,0) // -2,3".toList .solved = .ok scrambled ∧
        compile (invert "(1,0) // -2,3".toList) scrambled = .ok .solved := by
  have cut : "(1,0) // -2,3".toList.splitOn '/' = ["(1,0) ".toList, [], " -2,3".toList] := by decide
  have first : IsLiteralTurn (Text.trim "(1,0) ".toList) :=
    ⟨"1".toList, "0".toList, by decide, by decide, .inr (by decide)⟩
  have last : IsLiteralTurn (Text.trim " -2,3".toList) :=
    ⟨"-2".toList, "3".toList, by decide, by decide, .inl (by decide)⟩
  have literal : IsLiteral "(1,0) // -2,3".toList := by
    constructor <;> rw [cut]
    · simp only [List.forall_mem_cons]
      exact ⟨.inr first, .inl rfl, .inr last, by simp⟩
    · rintro fragment ⟨⟩
      exact .inl (by decide)
    · rintro fragment ⟨⟩
      exact .inl (by decide)
  exact ⟨literal, compile_invert literal .solved⟩

/-- A blank beside no slash is a swap like any other blank, but the text is not cut there when it is
inverted. -/
theorem compile_invert_blank :
    (compile "1,0 0,1".toList .solved).bind (compile (invert "1,0 0,1".toList)) ≠ .ok .solved ∧
      (compile "1,0 ".toList .solved).bind (compile (invert "1,0 ".toList)) ≠ .ok .solved := by
  have between : (Layout.ofText "1,0 0,1".toList).IsCanonical := by decide +kernel
  have betweenInverse : (Layout.ofText (invert "1,0 0,1".toList)).IsCanonical := by decide +kernel
  have behind : (Layout.ofText "1,0 ".toList).IsCanonical := by decide +kernel
  have behindInverse : (Layout.ofText (invert "1,0 ".toList)).IsCanonical := by decide +kernel
  rw [compile_of_expand (expand_of_isCanonical between),
    compile_of_expand (expand_of_isCanonical behind), Except.bind, Except.bind,
    compile_of_expand (expand_of_isCanonical betweenInverse),
    compile_of_expand (expand_of_isCanonical behindInverse)]
  exact ⟨fun same => absurd (Except.ok.inj same) (by decide +kernel),
    fun same => absurd (Except.ok.inj same) (by decide +kernel)⟩

end Scramble

end SquareOne
