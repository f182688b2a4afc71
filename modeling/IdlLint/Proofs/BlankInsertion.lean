import IdlLint.Proofs.MachineOutline
import IdlLint.Proofs.ParseDerivation
import IdlLint.Proofs.TextSplice
import IdlLint.Proofs.TokenOrder
import IdlLint.Schema.Walk

/-! White space and comments put into a text. Where they are put in at the edge of a token, the same
document is read, with the places that its tokens have then. -/
namespace IdlLint

/-! ### Places -/

namespace Position

private theorem behind_append (front back : List Char) :
    behind (front ++ back) = (behind front).after back := by
  rw [← origin_after, ← origin_after, after_append]

private theorem after_eq (p : Position) (text : List Char) :
    p.after text = ⟨p.line + text.count '\n', if '\n' ∈ text
      then (text.reverse.takeWhile (· != '\n')).length + 1 else p.column + text.length⟩ := by
  induction text using List.reverseRecOn with
  | nil => rfl
  | append_singleton text c ih =>
    rw [after_append, ih, after_cons, after_nil, next]
    by_cases lineFeed : c = '\n'
    · simp [lineFeed, Nat.add_assoc]
    · by_cases member : '\n' ∈ text <;> simp [lineFeed, member, Ne.symm lineFeed, Nat.add_assoc]

/-- Where a place comes to be when `gap` is put in after `front`. What is before it stays. All else moves
down by the lines of the gap, and what is on the line of the gap also moves to where the gap ends. -/
def inserted (front gap : List Char) (p : Position) : Position :=
  if p < behind front then p
  else if p.line = (behind front).line then
    ⟨p.line + gap.count '\n', (behind (front ++ gap)).column + (p.column - (behind front).column)⟩
  else ⟨p.line + gap.count '\n', p.column⟩

private theorem inserted_before {left right : List Char} (gap : List Char) (some : right ≠ []) :
    inserted (left ++ right) gap (behind left) = behind left := by
  rw [inserted, if_pos]
  rw [behind_append]
  exact lt_after _ some

/-- The map takes every place from `p` on to the one as far from `q`. -/
def Shifts (f : Position → Position) (p q : Position) : Prop :=
  ∀ text, f (p.after text) = q.after text

private theorem Shifts.after {f : Position → Position} {p q : Position} (shifts : Shifts f p q)
    (front : List Char) : Shifts f (p.after front) (q.after front) := by
  intro text
  rw [← after_append, ← after_append]
  exact shifts (front ++ text)

private theorem shifts_inserted (front gap : List Char) :
    Shifts (inserted front gap) (behind front) (behind (front ++ gap)) := by
  intro more
  have later : ¬ (behind front).after more < behind front := (le_after _ more).not_gt
  have lines : (behind (front ++ gap)).line = (behind front).line + gap.count '\n' := by
    simp [behind, Nat.add_right_comm]
  rw [inserted, if_neg later, after_eq, after_eq, lines]
  by_cases member : '\n' ∈ more
  · have below : more.count '\n' ≠ 0 := fun none => List.count_eq_zero.mp none member
    simp [member, below, Nat.add_right_comm]
  · simp [member, List.count_eq_zero.mpr member]

private theorem eq_of_behind_eq {front back left right : List Char}
    (same : front ++ back = left ++ right) (place : behind front = behind left) :
    front = left ∧ back = right := by
  rcases List.append_eq_append_iff.mp same with ⟨more, rfl, rfl⟩ | ⟨more, rfl, rfl⟩
  · cases more with
    | nil => simp
    | cons c more =>
      rw [behind_append] at place
      exact absurd place (lt_after _ (by simp)).ne
  · cases more with
    | nil => simp
    | cons c more =>
      rw [behind_append] at place
      exact absurd place.symm (lt_after _ (by simp)).ne

end Position

/-! ### Gaps -/

/-- White space, line comments with the ends of their lines, and block comments. -/
inductive IsGap : List Char → Prop where
  | nil : IsGap []
  | space {c : Char} {rest : List Char} (space : Lexeme.isSpace c = true) (more : IsGap rest) :
      IsGap (c :: rest)
  | line {mark body rest : List Char} (opens : mark = ['#'] ∨ mark = ['/', '/'])
      (inside : '\n' ∉ body) (more : IsGap rest) : IsGap (mark ++ body ++ '\n' :: rest)
  | block {body rest : List Char} (first : ¬ ['*', '/'] <:+: body ++ ['*']) (more : IsGap rest) :
      IsGap ('/' :: '*' :: (body ++ ['*', '/']) ++ rest)

namespace IsGap

variable {gap : List Char}

/-- Only blanks are read of a gap. -/
theorem reads (blank : IsGap gap) (rest : List Char) (m : Machine) (p : Position) :
    Reads rest m p gap [] m := by
  induction blank generalizing p with
  | nil => exact .done m p
  | space space _ ih => exact .space space (ih _)
  | line opens inside _ ih =>
    refine .comment (.line opens inside fun c head => ?_) (.space (by decide) (ih _))
    exact (Option.some.inj head).symm
  | block first _ ih => exact .comment (.block first) (ih _)

private theorem separates (blank : IsGap gap) (some : gap ≠ []) (rest : List Char) :
    Lexeme.Separates (gap ++ rest) := by
  intro c head
  cases blank with
  | nil => exact absurd rfl some
  | @space d _ space =>
    obtain rfl : d = c := Option.some.inj head
    rcases Lexeme.isSpace_cases space with rfl | rfl | rfl | rfl | rfl <;> decide
  | line opens =>
    rcases opens with rfl | rfl
    all_goals
      obtain rfl := Option.some.inj head
      decide
  | block =>
    obtain rfl := Option.some.inj head
    decide

/-- What is read before a gap does not depend on the gap. -/
theorem change (blank : IsGap gap) {m m' : Machine} {p : Position} {between front rest : List Char}
    {tokens : List Token} (reads : Reads (between ++ rest) m p front tokens m')
    (kept : KeepsLineEnd (between ++ rest) (between ++ (gap ++ rest))) :
    Reads (between ++ (gap ++ rest)) m p front tokens m' := by
  by_cases none : gap = []
  · rwa [none]
  · exact reads.change (blank.separates none rest) kept

private theorem next (blank : IsGap gap) {allowed : List Terminal} {lexeme rest : List Char}
    {terminal : Terminal} (found : Lexeme.next allowed (lexeme ++ rest) = some (terminal, lexeme)) :
    Lexeme.next allowed (lexeme ++ (gap ++ rest)) = some (terminal, lexeme) := by
  by_cases none : gap = []
  · rwa [none]
  · have cut : Lexeme.next allowed (lexeme ++ ([] ++ rest)) = some (terminal, lexeme) := found
    have again : Lexeme.next allowed (lexeme ++ ([] ++ (gap ++ rest))) = some (terminal, lexeme) :=
      Lexeme.next_cut cut (blank.separates none rest)
    exact again

end IsGap

/-! ### Edges of tokens -/

/-- The token starts or ends where the text `front` ends. -/
def IsEdge (front : List Char) (token : Token) : Prop :=
  token.position = .behind front ∨ token.position.after token.text = .behind front

namespace Reads

variable {m m' : Machine} {front back gap : List Char} {tokens : List Token}

/-- Every token that is read starts before the end of what is read. -/
theorem exists_before {rest : List Char} {p : Position} (reads : Reads rest m p front tokens m') :
    ∀ token ∈ tokens, ∃ left right, front = left ++ right ∧ right ≠ [] ∧
      token.position = p.after left := by
  intro token member
  obtain ⟨before, after, rfl⟩ := List.append_of_mem member
  obtain ⟨left, right, m₁, m₂, rfl, place, -, next, -⟩ := reads.split
  have some := (Lexeme.next_sound next).2.ne_nil
  exact ⟨left, _, rfl, by simp [some], place⟩

/-- A text that is read is read in two parts at the edge of a token, and a gap between them makes no
difference for the first part. -/
theorem split_edge (reads : Reads [] m .origin (front ++ back) tokens m') {token : Token}
    (listed : token ∈ tokens) (edge : IsEdge front token) (blank : IsGap gap) :
    ∃ before after m₁, tokens = before ++ after ∧ Reads (gap ++ back) m .origin front before m₁ ∧
      Reads [] m₁ (.behind front) back after m' := by
  obtain ⟨before, after, rfl⟩ := List.append_of_mem listed
  obtain ⟨left, right, m₁, m₂, same, place, upTo, next, taken, more⟩ := reads.split
  rw [List.append_nil] at upTo
  have spells := (Lexeme.next_sound next).2
  rw [Position.origin_after] at place
  rcases edge with starts | ends
  · obtain ⟨rfl, rfl⟩ := Position.eq_of_behind_eq same (starts.symm.trans place)
    refine ⟨before, token :: after, m₁, rfl, ?_, ?_⟩
    · have first : Reads ([] ++ (token.text ++ right)) m .origin front before m₁ := upTo
      obtain ⟨c, text, head, -⟩ := spells.lead
      refine blank.change first ?_
      rw [head] at spells ⊢
      exact keepsLineEnd_of_ne spells.ne_lineFeed _ _
    · rw [← place]
      exact .token next taken more
  · rw [place, ← Position.behind_append] at ends
    rw [← List.append_assoc] at same
    obtain ⟨rfl, rfl⟩ := Position.eq_of_behind_eq same ends.symm
    refine ⟨before ++ [token], after, m₂, by simp, ?_, ?_⟩
    · have first := blank.change upTo (keepsLineEnd_of_head spells.ne_nil _ _)
      rw [List.append_nil] at next
      have single : Reads (gap ++ back) m₁ token.position (token.text ++ []) [token] m₂ :=
        .token (blank.next next) taken (.done _ _)
      rw [List.append_nil] at single
      refine first.append ?_
      rwa [Position.origin_after, ← place]
    · rwa [Position.behind_append, ← place]

/-- The same text is read in the same way at another place, by a machine of the same outline. -/
theorem move {rest : List Char} {p q : Position} {m₁ : Machine} {f : Position → Position}
    (reads : Reads rest m p front tokens m') (alike : m.outline = m₁.outline)
    (shifts : Position.Shifts f p q) :
    ∃ m₂, Reads rest m₁ q front (tokens.map (Token.relocate f)) m₂ := by
  induction reads generalizing q m₁ with
  | done => exact ⟨m₁, .done m₁ q⟩
  | @space _ _ _ c _ _ space _ ih =>
    obtain ⟨m₂, again⟩ := ih alike (shifts.after [c])
    exact ⟨m₂, .space space again⟩
  | @comment _ _ _ comment _ _ known _ ih =>
    obtain ⟨m₂, again⟩ := ih alike (shifts.after comment)
    exact ⟨m₂, .comment known again⟩
  | @token m m' _ token front tokens next taken _ ih =>
    obtain rfl : f token.position = q := shifts []
    have same : token.terminal = (token.relocate f).terminal := rfl
    obtain ⟨m₃, fed, outlines⟩ := Machine.feed_outline same alike taken
    obtain ⟨m₂, again⟩ := ih outlines (shifts.after token.text)
    rw [Machine.expected_eq alike] at next
    exact ⟨m₂, @Reads.token _ m₁ m₃ m₂ (token.relocate f) front _ next fed again⟩

/-- With a gap at the edge of a token the same tokens are read, at the places where they are then. -/
theorem insert (reads : Reads [] m .origin (front ++ back) tokens m') {token : Token}
    (listed : token ∈ tokens) (edge : IsEdge front token) (blank : IsGap gap) :
    ∃ m₂, Reads [] m .origin (front ++ gap ++ back)
      (tokens.map (Token.relocate (.inserted front gap))) m₂ := by
  obtain ⟨before, after, m₁, rfl, first, second⟩ := reads.split_edge listed edge blank
  have stay : before.map (Token.relocate (.inserted front gap)) = before := by
    refine (List.map_congr_left fun token member => ?_).trans (List.map_id before)
    obtain ⟨left, right, rfl, some, place⟩ := first.exists_before token member
    rw [Position.origin_after] at place
    simp only [Token.relocate, place, Position.inserted_before gap some]
    rw [← place]
    rfl
  obtain ⟨m₂, moved⟩ := second.move rfl (Position.shifts_inserted front gap)
  rw [Position.behind_append] at moved
  have blanks := (blank.reads (back ++ []) m₁ (.behind front)).append moved
  rw [← Position.origin_after, List.nil_append] at blanks
  rw [← List.append_nil (gap ++ back)] at first
  rw [List.map_append, stay, List.append_assoc]
  exact ⟨m₂, first.append blanks⟩

end Reads

/-! ### Documents -/

namespace Schema

/-- A derivation of a document has one with other places beside it. -/
theorem exists_relocated {tree : Tree} (grown : Grown (.rule .document) tree)
    (f : Position → Position) :
    ∃ moved, Grown (.rule .document) moved ∧ moved.tokens = tree.tokens.map (Token.relocate f) ∧
      Document.ofTree moved = (Document.ofTree tree).relocate f := by
  obtain ⟨slots, rfl, alternative, chosen, fits⟩ := grown_rule_iff.mp grown
  refine ⟨_, grown.relocate_document f, Tree.slotTokens_relocate f slots, ?_⟩
  have relocated := ofTree_relocate grown.1 f
  -- What a document stands for does not depend on where it starts.
  obtain rfl := List.mem_singleton.mp chosen
  cases fits with
  | cons _ none =>
    cases none
    rw [Document.ofTree, ← Piece.document.inj relocated]
    rfl

/-- The place after `front` is the edge of a token of the text `front ++ back`. -/
def AtEdge (front back : List Char) : Prop :=
  ∃ tree, Tree.ofText (front ++ back) = .ok tree ∧ ∃ token ∈ tree.tokens, IsEdge front token

private theorem ofText_insert {front back gap : List Char} {tree : Tree}
    (result : Tree.ofText (front ++ back) = .ok tree) {token : Token} (listed : token ∈ tree.tokens)
    (edge : IsEdge front token) (blank : IsGap gap) :
    ∃ moved, Tree.ofText (front ++ gap ++ back) = .ok moved ∧
      moved.tokens = tree.tokens.map (Token.relocate (.inserted front gap)) ∧
      Document.ofTree moved = (Document.ofTree tree).relocate (.inserted front gap) := by
  obtain ⟨tokens, m, reads, completes⟩ := Derivation.reads_of_read Machine.initial_coherent result
  have whole := (reads.completes_iff Machine.initial_coherent [] tree).mpr completes
  rw [List.append_nil] at whole
  obtain ⟨grown, rfl⟩ := Machine.initial_completes_iff.mp whole
  obtain ⟨moved, grown', tokens, same⟩ := exists_relocated grown (.inserted front gap)
  obtain ⟨m₂, again⟩ := reads.insert listed edge blank
  refine ⟨moved, ?_, tokens, same⟩
  rw [← tokens] at again
  have whole' := Machine.initial_completes_iff.mpr ⟨grown', rfl⟩
  rw [← List.append_nil moved.tokens, again.completes_iff Machine.initial_coherent] at whole'
  rw [Tree.ofText, ← List.append_nil (front ++ gap ++ back), again.read_eq]
  exact Derivation.finish_complete (again.coherent Machine.initial_coherent) whole'

/-- A gap at the edge of a token does not change what is read, but for the places of what comes after
it. -/
theorem parse_insert {front back gap : List Char} {d : Document}
    (result : parse (front ++ back) = .ok d) (cut : AtEdge front back) (blank : IsGap gap) :
    parse (front ++ gap ++ back) = .ok (d.relocate (.inserted front gap)) ∧
      (∀ left right, front = left ++ right → right ≠ [] →
        Position.inserted front gap (.behind left) = .behind left) ∧
      ∀ more, Position.inserted front gap (.behind (front ++ more)) = .behind (front ++ gap ++ more) := by
  obtain ⟨tree, read, readable, rfl⟩ := parse_eq_ok_iff.mp result
  obtain ⟨tree', read', token, listed, edge⟩ := cut
  obtain rfl : tree = tree' := Except.ok.inj (read.symm.trans read')
  obtain ⟨moved, again, tokens, same⟩ := ofText_insert read listed edge blank
  refine ⟨parse_eq_ok_iff.mpr ⟨moved, again, ?_, same⟩, ?_, fun more => ?_⟩
  · rw [tokens, List.findSome?_map]
    exact readable
  · rintro left right rfl some
    exact Position.inserted_before gap some
  · rw [Position.behind_append, Position.shifts_inserted, Position.behind_append (front ++ gap)]

/-- An enumeration up to the end of its first item's name. -/
def enumFront : List Char :=
  "enum E \x7bA".toList

/-- The rest of the enumeration, with an item on the same line and one on the next. -/
def enumBack : List Char :=
  " = 1, B = 2\n  C\x7d".toList

/-- A block comment over two lines, and a line comment. -/
def twoComments : List Char :=
  ' ' :: ('/' :: '*' :: ([' ', 'a', '\n', ' '] ++ ['*', '/']) ++
    ' ' :: (['#'] ++ [' ', 'b'] ++ '\n' :: [' ']))

/-- The places of the nodes in the order of the walk. -/
def walkPositions (d : Document) : List Position :=
  (walk (.document d)).map fun visit => visit.node.position

theorem parse_insert_twoComments :
    AtEdge enumFront enumBack ∧ IsGap twoComments ∧ ∃ d, parse (enumFront ++ enumBack) = .ok d ∧
      walkPositions d = [⟨1, 1⟩, ⟨1, 1⟩, ⟨1, 9⟩, ⟨1, 16⟩, ⟨2, 3⟩] ∧
      parse (enumFront ++ twoComments ++ enumBack) =
        .ok (d.relocate (.inserted enumFront twoComments)) ∧
      walkPositions (d.relocate (.inserted enumFront twoComments)) =
        [⟨1, 1⟩, ⟨1, 1⟩, ⟨1, 9⟩, ⟨3, 8⟩, ⟨4, 3⟩] := by
  have blank : IsGap twoComments := .space (by decide) (.block (by decide) (.space (by decide)
    (.line (.inl rfl) (by decide) (.space (by decide) .nil))))
  have tokens : ((Tree.ofText (enumFront ++ enumBack)).toOption.map fun tree => tree.tokens.any
      fun token => token.position.after token.text = .behind enumFront) = some true := by
    decide +kernel
  have read : ((parse (enumFront ++ enumBack)).toOption.map fun d =>
      (walkPositions d, walkPositions (d.relocate (.inserted enumFront twoComments)))) =
      some ([⟨1, 1⟩, ⟨1, 1⟩, ⟨1, 9⟩, ⟨1, 16⟩, ⟨2, 3⟩],
        [⟨1, 1⟩, ⟨1, 1⟩, ⟨1, 9⟩, ⟨3, 8⟩, ⟨4, 3⟩]) := by decide +kernel
  have cut : AtEdge enumFront enumBack := by
    cases result : Tree.ofText (enumFront ++ enumBack) with
    | error e =>
      rw [result] at tokens
      cases tokens
    | ok tree =>
      rw [result] at tokens
      obtain ⟨token, listed, ends⟩ := List.any_eq_true.mp (Option.some.inj tokens)
      exact ⟨tree, result, token, listed, .inr (of_decide_eq_true ends)⟩
  cases result : parse (enumFront ++ enumBack) with
  | error failure =>
    rw [result] at read
    cases read
  | ok d =>
    rw [result] at read
    obtain ⟨before, after⟩ := Prod.mk.inj (Option.some.inj read)
    exact ⟨cut, blank, d, rfl, before, (parse_insert result cut blank).1, after⟩

end Schema

end IdlLint
