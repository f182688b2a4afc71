import IdlLint.Proofs.TextLayout
import Mathlib.Data.Prod.Lex

/-! Where the tokens of a text stand: each at the line and column of its first character, one after the
other. -/
namespace IdlLint

namespace Position

/-- Places are compared by their lines, and on one line by their columns. -/
instance : LinearOrder Position :=
  LinearOrder.lift' (fun p => toLex (p.line, p.column)) fun p q same => by
    obtain ⟨line, column⟩ := p
    obtain ⟨line', column'⟩ := q
    simpa using same

private theorem lt_iff {p q : Position} :
    p < q ↔ p.line < q.line ∨ p.line = q.line ∧ p.column < q.column :=
  Prod.Lex.toLex_lt_toLex

private theorem lt_next (p : Position) (c : Char) : p < p.next c := by
  rw [lt_iff, next]
  split <;> simp

theorem le_after (p : Position) (text : List Char) : p ≤ p.after text := by
  induction text generalizing p with
  | nil => exact le_refl p
  | cons c rest ih => exact (lt_next p c).le.trans (ih (p.next c))

theorem lt_after (p : Position) {text : List Char} (some : text ≠ []) : p < p.after text := by
  cases text with
  | nil => exact absurd rfl some
  | cons c rest => exact (lt_next p c).trans_le (le_after (p.next c) rest)

/-- The place after a text that starts at the first character: lines are counted by the line feeds in
it, columns by the characters after the last of them, both from one. -/
def behind (text : List Char) : Position :=
  ⟨text.count '\n' + 1, (text.reverse.takeWhile (· != '\n')).length + 1⟩

theorem origin_after (text : List Char) : origin.after text = behind text := by
  induction text using List.reverseRecOn with
  | nil => rfl
  | append_singleton text c ih =>
    rw [after_append, ih, after_cons, after_nil, next]
    split
    · rename_i lineFeed
      simp [behind, lineFeed]
    · rename_i other
      simp [behind, other]

end Position

/-- A comment does not become another one when the text ends earlier after it. -/
theorem IsComment.of_append {comment front back : List Char}
    (known : IsComment comment (front ++ back)) : IsComment comment front := by
  have kept : KeepsLineEnd back [] := fun _ c head => by cases head
  have cut := known.change kept
  rwa [List.append_nil] at cut

namespace Layout

variable {p : Position} {text : List Char} {tokens : List Token}

theorem le_position (layout : Layout p text tokens) : ∀ token ∈ tokens, p ≤ token.position := by
  induction layout with
  | done p => exact fun _ member => absurd member List.not_mem_nil
  | @space p c _ _ _ _ ih => exact fun token member => (p.lt_next c).le.trans (ih token member)
  | @comment p comment _ _ _ _ ih =>
    exact fun token member => (p.le_after comment).trans (ih token member)
  | @token first _ _ _ _ ih =>
    refine List.forall_mem_cons.mpr ⟨le_refl _, fun token member => ?_⟩
    exact (first.position.le_after first.text).trans (ih token member)

/-- Tokens stand one after the other. -/
theorem pairwise_position (layout : Layout p text tokens) :
    tokens.Pairwise fun a b => a.position < b.position := by
  induction layout with
  | done p => exact .nil
  | space _ _ ih => exact ih
  | comment _ _ ih => exact ih
  | @token first _ _ spells more ih =>
    refine .cons (fun token member => ?_) ih
    exact (first.position.lt_after spells.ne_nil).trans_le (more.le_position token member)

/-- The text up to a token is laid out by the tokens before it, and the place of the token is that of
its first character. -/
theorem exists_front {before after : List Token} {token : Token}
    (layout : Layout p text (before ++ token :: after)) :
    ∃ front back, text = front ++ token.text ++ back ∧ Layout p front before ∧
      token.position = p.after front := by
  generalize listed : before ++ token :: after = tokens at layout
  induction layout generalizing before with
  | done p => simp at listed
  | @space p c rest tokens space _ ih =>
    obtain ⟨front, back, rfl, laid, place⟩ := ih listed
    exact ⟨c :: front, back, rfl, .space space laid, place⟩
  | @comment p comment rest tokens known _ ih =>
    obtain ⟨front, back, rfl, laid, place⟩ := ih listed
    rw [List.append_assoc] at known
    refine ⟨comment ++ front, back, by simp only [List.append_assoc],
      .comment known.of_append laid, ?_⟩
    rw [place, Position.after_append]
  | @token first rest tokens spells _ ih =>
    cases before with
    | nil =>
      obtain ⟨rfl, rfl⟩ := List.cons_eq_cons.mp listed
      exact ⟨[], rest, rfl, .done _, rfl⟩
    | cons other before =>
      obtain ⟨rfl, later⟩ := List.cons_eq_cons.mp listed
      obtain ⟨front, back, rfl, laid, place⟩ := ih later
      refine ⟨other.text ++ front, back, by simp only [List.append_assoc], .token spells laid, ?_⟩
      rw [place, Position.after_append]

end Layout

end IdlLint
