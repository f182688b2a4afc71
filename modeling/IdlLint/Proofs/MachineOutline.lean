import IdlLint.Proofs.MachineCompletion

/-! What the steps of the stack machine depend on: the open rules and the elements that they still wait
for. The trees that are held so far and the places of tokens make no difference, so that machines of one
outline take the same terminals. -/
namespace IdlLint

namespace Frame

/-- The rule, and the elements that it still waits for. -/
def outline (f : Frame) : Rule × List Element :=
  (f.rule, f.rest)

private theorem seek_outline {rule : Rule} {terminal : Terminal} {elements : List Element}
    (start start' : Position) (passed passed' : List (List Tree)) (current current' : List Tree) :
    (seek rule start terminal passed current elements).map (Prod.map outline id) =
      (seek rule start' terminal passed' current' elements).map (Prod.map outline id) := by
  induction elements generalizing passed passed' current current' with
  | nil => rfl
  | cons e rest ih =>
    by_cases here : e.symbol.first.contains terminal = true
    · simp only [seek, here, if_true]
      rfl
    · cases optional : e.isOptional with
      | true => simpa only [seek, if_neg here, if_pos optional] using ih _ _ _ _
      | false => simp only [seek, if_neg here, optional, if_false, Bool.false_eq_true]

private theorem ready_outline {f f' : Frame} (alike : f.outline = f'.outline) (terminal : Terminal) :
    (f.ready terminal).map (Prod.map outline id) = (f'.ready terminal).map (Prod.map outline id) := by
  obtain ⟨rule, rest⟩ := Prod.mk.inj alike
  rw [ready, ready, rule, rest]
  exact seek_outline ..

private theorem enter_outline (rule : Rule) {token token' : Token}
    (same : token.terminal = token'.terminal) :
    (enter rule token).map (Prod.map outline id) = (enter rule token').map (Prod.map outline id) := by
  simp only [enter, List.map_findSome?, same]
  refine congrArg (rule.alternatives.findSome? ·) (funext fun alternative => ?_)
  exact seek_outline ..

theorem plug_outline {f f' : Frame} (alike : f.outline = f'.outline) (tree tree' : Tree) :
    (f.plug tree).outline = (f'.plug tree').outline := by
  obtain ⟨rule, start, passed, current, elements⟩ := f
  obtain ⟨rule', start', passed', current', elements'⟩ := f'
  obtain ⟨rfl, rfl⟩ : rule = rule' ∧ elements = elements' := Prod.mk.inj alike
  cases elements with
  | nil => rfl
  | cons e rest => cases repetition : e.repetition <;> simp [plug, repetition, outline]

private theorem expected_eq {f f' : Frame} (alike : f.outline = f'.outline) :
    f.expected = f'.expected := by
  obtain ⟨rule, rest⟩ := Prod.mk.inj alike
  rw [expected, expected, rule, rest]

private theorem endsBefore_eq {f f' : Frame} (alike : f.outline = f'.outline) (terminal : Terminal) :
    f.endsBefore terminal = f'.endsBefore terminal := by
  obtain ⟨rule, rest⟩ := Prod.mk.inj alike
  rw [endsBefore, endsBefore, rule, rest]

/-- Where a frame is found for a symbol, one of the same outline is found for it. -/
theorem exists_alike {f : Frame} {symbol : Symbol} {found : Option (Frame × Symbol)}
    (alike : (some (f, symbol)).map (Prod.map outline id) = found.map (Prod.map outline id)) :
    ∃ f', found = some (f', symbol) ∧ f.outline = f'.outline := by
  obtain ⟨⟨f', symbol'⟩, rfl, same⟩ := Option.map_eq_some_iff.mp alike.symm
  obtain ⟨outlines, rfl⟩ := Prod.mk.inj same
  exact ⟨f', rfl, outlines.symm⟩

end Frame

namespace Machine

/-- The outlines of the open rules. -/
def outline (m : Machine) : List (Rule × List Element) :=
  (m.top :: m.below).map Frame.outline

private theorem outline_eq_iff {m m' : Machine} : m.outline = m'.outline ↔
    m.top.outline = m'.top.outline ∧ m.below.map Frame.outline = m'.below.map Frame.outline :=
  List.cons_eq_cons

theorem expected_eq {m m' : Machine} (alike : m.outline = m'.outline) : m.expected = m'.expected :=
  Frame.expected_eq (outline_eq_iff.mp alike).1

private theorem descend_outline {token token' : Token} (same : token.terminal = token'.terminal)
    {fuel : Nat} {symbol : Symbol} {m m' : Machine} (alike : m.outline = m'.outline) :
    (descend token fuel symbol m).outline = (descend token' fuel symbol m').outline := by
  fun_induction descend token fuel symbol m generalizing m' with
  | case1 fuel terminal m =>
    obtain ⟨tops, others⟩ := outline_eq_iff.mp alike
    rw [descend]
    exact outline_eq_iff.mpr ⟨Frame.plug_outline tops _ _, others⟩
  | case2 => exact alike
  | case3 fuel rule m f symbol found ih =>
    have entered := Frame.enter_outline rule same
    rw [found] at entered
    obtain ⟨f', found', outlines⟩ := Frame.exists_alike entered
    rw [descend, found']
    exact ih (outline_eq_iff.mpr ⟨outlines, alike⟩)
  | case4 fuel rule m missing =>
    have entered := Frame.enter_outline rule same
    rw [missing] at entered
    rw [descend, Option.map_eq_none_iff.mp entered.symm]
    exact alike

/-- A token is taken by all machines of one outline, and wherever it stands. -/
theorem feedFrame_outline {token token' : Token} (same : token.terminal = token'.terminal)
    {top top' : Frame} {below below' : List Frame} {m : Machine}
    (tops : top.outline = top'.outline) (others : below.map Frame.outline = below'.map Frame.outline)
    (taken : feedFrame token top below = .shifted m) :
    ∃ m', feedFrame token' top' below' = .shifted m' ∧ m.outline = m'.outline := by
  have readied := Frame.ready_outline tops token.terminal
  fun_induction feedFrame token top below generalizing top' below' with
  | case1 top below f symbol found =>
    rw [found] at readied
    obtain ⟨f', found', outlines⟩ := Frame.exists_alike readied
    cases taken
    refine ⟨descend token' depth symbol ⟨f', below'⟩, ?_, ?_⟩
    · unfold feedFrame
      rw [← same, found']
    · exact descend_outline same (outline_eq_iff.mpr ⟨outlines, others⟩)
  | case2 => cases taken
  | case3 top missing ends f below ih =>
    rw [missing] at readied
    have missing' := Option.map_eq_none_iff.mp readied.symm
    obtain ⟨f', rest, rfl, outlines, others'⟩ := List.map_eq_cons_iff.mp others.symm
    have plugged := Frame.plug_outline outlines.symm top.close top'.close
    rw [Frame.endsBefore_eq tops, same] at ends
    rw [same] at missing'
    obtain ⟨m', fed, alike⟩ := ih plugged others'.symm taken (Frame.ready_outline plugged _)
    refine ⟨m', ?_, alike⟩
    rw [feedFrame, missing']
    simpa only [ends, if_true] using fed
  | case4 => cases taken

theorem feed_outline {token token' : Token} (same : token.terminal = token'.terminal)
    {m m' next : Machine} (alike : m.outline = m'.outline) (taken : m.feed token = .shifted next) :
    ∃ next', m'.feed token' = .shifted next' ∧ next.outline = next'.outline := by
  obtain ⟨tops, others⟩ := outline_eq_iff.mp alike
  exact feedFrame_outline same tops others taken

end Machine

end IdlLint
