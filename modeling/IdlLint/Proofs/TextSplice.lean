import IdlLint.Proofs.LongestLexeme
import IdlLint.Proofs.TextLayout

/-! Texts that are taken apart between two tokens. What was read of the front stays so when the text goes
on in another way, as long as it goes on with a separator and no line comment becomes longer. -/
namespace IdlLint

theorem keepsLineEnd_of_head {text : List Char} (some : text ≠ []) (rest rest' : List Char) :
    KeepsLineEnd (text ++ rest) (text ++ rest') := by
  cases text with
  | nil => exact absurd rfl some
  | cons c text => exact id

theorem keepsLineEnd_of_ne {c : Char} (other : c ≠ '\n') (rest rest' : List Char) :
    KeepsLineEnd (c :: rest) rest' :=
  fun ends => absurd (ends c rfl) other

theorem Spells.ne_lineFeed {terminal : Terminal} {c : Char} {rest : List Char}
    (spells : Spells terminal (c :: rest)) : c ≠ '\n' := by
  rintro rfl
  have solid := Lexeme.blank_eq_none spells []
  simp [Lexeme.blank, Lexeme.isSpace] at solid

namespace Reads

variable {m m' m₁ : Machine} {p : Position} {front back rest rest' : List Char}
  {tokens more : List Token}

theorem append (first : Reads (back ++ rest) m p front tokens m₁)
    (second : Reads rest m₁ (p.after front) back more m') :
    Reads rest m p (front ++ back) (tokens ++ more) m' := by
  induction first with
  | done => exact second
  | space space _ ih => exact .space space (ih second)
  | comment known _ ih =>
    rw [Position.after_append] at second
    rw [List.append_assoc]
    refine .comment ?_ (ih second)
    rwa [List.append_assoc]
  | token next taken _ ih =>
    rw [Position.after_append] at second
    rw [List.append_assoc]
    refine .token ?_ taken (ih second)
    rwa [List.append_assoc]

/-- A text is read up to a token, then the token, and then what comes after it. -/
theorem split {before after : List Token} {token : Token}
    (reads : Reads rest m p front (before ++ token :: after) m') :
    ∃ left right m₁ m₂, front = left ++ (token.text ++ right) ∧ token.position = p.after left ∧
      Reads (token.text ++ (right ++ rest)) m p left before m₁ ∧
      Lexeme.next m₁.expected (token.text ++ (right ++ rest)) = some (token.terminal, token.text) ∧
      m₁.feed token = .shifted m₂ ∧
      Reads rest m₂ (token.position.after token.text) right after m' := by
  generalize listed : before ++ token :: after = tokens at reads
  induction reads generalizing before with
  | done => simp at listed
  | @space _ _ _ c _ _ space _ ih =>
    obtain ⟨left, right, m₁, m₂, rfl, place, reads, found⟩ := ih listed
    exact ⟨c :: left, right, m₁, m₂, rfl, place, .space space reads, found⟩
  | @comment _ _ _ comment _ _ known _ ih =>
    obtain ⟨left, right, m₁, m₂, rfl, place, reads, found⟩ := ih listed
    refine ⟨comment ++ left, right, m₁, m₂, by simp only [List.append_assoc], ?_,
      .comment ?_ reads, found⟩
    · rw [place, Position.after_append]
    · simpa only [List.append_assoc] using known
  | @token m m₁ m' first front tokens next taken more ih =>
    cases before with
    | nil =>
      obtain ⟨rfl, rfl⟩ := List.cons_eq_cons.mp listed
      exact ⟨[], front, m, m₁, rfl, rfl, .done _ _, next, taken, more⟩
    | cons other before =>
      obtain ⟨rfl, later⟩ := List.cons_eq_cons.mp listed
      obtain ⟨left, right, m₂, m₃, rfl, place, reads, found⟩ := ih later
      refine ⟨other.text ++ left, right, m₂, m₃, by simp only [List.append_assoc], ?_,
        .token ?_ taken reads, found⟩
      · rw [place, Position.after_append]
      · simpa only [List.append_assoc] using next

/-- What has been read does not depend on what comes after a separator. -/
theorem change {between : List Char} (reads : Reads (between ++ rest) m p front tokens m')
    (separates : Lexeme.Separates rest') (kept : KeepsLineEnd (between ++ rest) (between ++ rest')) :
    Reads (between ++ rest') m p front tokens m' := by
  induction reads with
  | done => exact .done _ _
  | space space _ ih => exact .space space ih
  | comment known _ ih => exact .comment (known.change kept) ih
  | @token _ _ _ _ front _ next taken _ ih =>
    refine .token ?_ taken ih
    rw [← List.append_assoc front] at next ⊢
    exact Lexeme.next_cut next separates

end Reads

end IdlLint
