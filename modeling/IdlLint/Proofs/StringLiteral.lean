import IdlLint.Proofs.LongestLexeme
import IdlLint.Schema.Literal

/-! String literals. Every text can be written between either of the two quotes: the literal is found
whatever comes after it, and it stands for the text. A literal that is found anywhere falls into plain
characters and escapes in one way only, and the text that it stands for is put together from what each
of them stands for. -/
namespace IdlLint.Schema.Literal

/-- What a literal is made of between its quotes: characters that stand for themselves, and
backslashes with the character that each takes with it. -/
inductive Piece where
  | plain (c : Char) (free : c ≠ '\\')
  | escape (c : Char)

namespace Piece

def spelling : Piece → List Char
  | .plain c _ => [c]
  | .escape c => ['\\', c]

/-- The text that a piece stands for. Escapes other than the six that have a meaning stand for
themselves. -/
def value : Piece → List Char
  | .plain c _ => [c]
  | .escape 'n' => ['\n']
  | .escape 't' => ['\t']
  | .escape 'r' => ['\r']
  | .escape '\\' => ['\\']
  | .escape '"' => ['"']
  | .escape '\'' => ['\'']
  | .escape c => ['\\', c]

end Piece

/-- The pieces put side by side between two quotes. -/
def assembled (mark : Char) (pieces : List Piece) : List Char :=
  mark :: (pieces.flatMap Piece.spelling ++ [mark])

/-! ### Decoding -/

private theorem unescape_plain {c : Char} (free : c ≠ '\\') (rest : List Char) :
    unescape (c :: rest) = c :: unescape rest := by
  cases rest with
  | nil => rw [unescape]; simp
  | cons d more =>
    rw [unescape]
    intro _ _ same
    exact absurd same free

private theorem unescape_escape (c : Char) (rest : List Char) :
    unescape ('\\' :: c :: rest) = (Piece.escape c).value ++ unescape rest := by
  rw [unescape]
  fun_cases escaped c with
  | case7 => simp only [Piece.value, List.cons_append, List.nil_append]
  | _ => rfl

/-- One piece is decoded without a look at those after it. -/
theorem unescape_piece (piece : Piece) (rest : List Char) :
    unescape (piece.spelling ++ rest) = piece.value ++ unescape rest := by
  cases piece with
  | plain c free => exact unescape_plain free rest
  | escape c => exact unescape_escape c rest

private theorem unescape_pieces (pieces : List Piece) :
    unescape (pieces.flatMap Piece.spelling) = pieces.flatMap Piece.value := by
  induction pieces with
  | nil => rfl
  | cons piece rest ih => rw [List.flatMap_cons, List.flatMap_cons, unescape_piece, ih]

private theorem unquote_assembled (mark : Char) (pieces : List Piece) :
    unquote (assembled mark pieces) = pieces.flatMap Piece.value := by
  have inside : ((assembled mark pieces).drop 1).dropLast = pieces.flatMap Piece.spelling := by
    simp [assembled]
  rw [unquote, inside, unescape_pieces]

/-- The first characters tell whether a plain character or an escape comes first. -/
theorem pieces_unique {one two : List Piece}
    (same : one.flatMap Piece.spelling = two.flatMap Piece.spelling) : one = two := by
  induction one generalizing two with
  | nil =>
    cases two with
    | nil => rfl
    | cons piece rest => cases piece <;> simp [Piece.spelling] at same
  | cons first more ih =>
    cases two with
    | nil => cases first <;> simp [Piece.spelling] at same
    | cons second others =>
      rw [List.flatMap_cons, List.flatMap_cons] at same
      cases first with
      | plain c free =>
        cases second with
        | plain d _ =>
          obtain ⟨rfl, later⟩ := List.cons.inj same
          rw [ih later]
        | escape d =>
          obtain ⟨backslash, -⟩ := List.cons.inj same
          exact absurd backslash free
      | escape c =>
        cases second with
        | plain d free =>
          obtain ⟨backslash, -⟩ := List.cons.inj same
          exact absurd backslash.symm free
        | escape d =>
          obtain ⟨rfl, later⟩ := List.cons.inj (List.cons.inj same).2
          rw [ih later]

private theorem assembled_inj {one two : Char} {pieces others : List Piece}
    (same : assembled one pieces = assembled two others) : one = two ∧ pieces = others := by
  obtain ⟨mark, inside⟩ := List.cons.inj same
  subst mark
  exact ⟨rfl, pieces_unique (List.append_cancel_right inside)⟩

private theorem exists_pieces_of_quoted {mark : Char} {body : List Char}
    (quoted : IsQuoted mark body) :
    ∃ pieces : List Piece, body = pieces.flatMap Piece.spelling := by
  induction quoted with
  | empty => exact ⟨[], rfl⟩
  | @plain c rest other free inside more ih =>
    obtain ⟨pieces, rfl⟩ := ih
    exact ⟨.plain c free :: pieces, rfl⟩
  | @escape c rest inside more ih =>
    obtain ⟨pieces, rfl⟩ := ih
    exact ⟨.escape c :: pieces, rfl⟩

/-! ### Writing -/

/-- How a character is written between two quotes `mark`. -/
def writtenChar (mark c : Char) : List Char :=
  if c = '\\' ∨ c = mark then ['\\', c] else if c = '\n' then ['\\', 'n'] else [c]

/-- The literal for a text. -/
def literalOf (mark : Char) (text : List Char) : List Char :=
  mark :: (text.flatMap (writtenChar mark) ++ [mark])

variable {mark : Char}

private theorem isQuoted_writtenChar (quote : mark = '"' ∨ mark = '\'') (text : List Char) :
    IsQuoted mark (text.flatMap (writtenChar mark)) := by
  induction text with
  | nil => exact .empty
  | cons c rest ih =>
    rw [List.flatMap_cons, writtenChar]
    by_cases marked : c = '\\' ∨ c = mark
    · have inside : c ≠ '\n' := by
        rintro rfl
        rcases quote with rfl | rfl <;> exact absurd marked (by decide)
      rw [if_pos marked]
      exact .escape inside ih
    · rw [if_neg marked]
      obtain ⟨free, other⟩ := not_or.mp marked
      by_cases ends : c = '\n'
      · rw [if_pos ends]
        exact .escape (by decide) ih
      · rw [if_neg ends]
        exact .plain other free ends ih

private theorem unescape_writtenChar (quote : mark = '"' ∨ mark = '\'') (c : Char)
    (rest : List Char) : unescape (writtenChar mark c ++ rest) = c :: unescape rest := by
  unfold writtenChar
  by_cases marked : c = '\\' ∨ c = mark
  · rw [if_pos marked]
    rcases marked with rfl | rfl
    · exact unescape_escape '\\' rest
    · rcases quote with rfl | rfl
      · exact unescape_escape '"' rest
      · exact unescape_escape '\'' rest
  · rw [if_neg marked]
    by_cases ends : c = '\n'
    · rw [if_pos ends, ends]
      exact unescape_escape 'n' rest
    · rw [if_neg ends]
      exact unescape_plain (not_or.mp marked).1 rest

private theorem unquote_literalOf (quote : mark = '"' ∨ mark = '\'') (text : List Char) :
    unquote (literalOf mark text) = text := by
  have inside : ((literalOf mark text).drop 1).dropLast = text.flatMap (writtenChar mark) := by
    simp [literalOf]
  rw [unquote, inside]
  induction text with
  | nil => rfl
  | cons c rest ih =>
    rw [List.flatMap_cons, unescape_writtenChar quote, ih (by simp [literalOf])]

/-- Every text has a literal between quotes of either kind: at the start of a text it is what is found
as a string, whatever follows, and it stands for the text. And a string that is found in any text is
assembled from pieces in one way only, and stands for what the pieces stand for one after the other. -/
theorem literal_roundTrip (quote : mark = '"' ∨ mark = '\'') (text rest : List Char) :
    (Lexeme.ofTerminal .string (literalOf mark text ++ rest) = some (literalOf mark text) ∧
      unquote (literalOf mark text) = text) ∧
    ∀ source literal, Lexeme.ofTerminal .string source = some literal →
      ∃ first pieces, (first = '"' ∨ first = '\'') ∧ literal = assembled first pieces ∧
        unquote literal = pieces.flatMap Piece.value ∧
        ∀ other others, literal = assembled other others → other = first ∧ others = pieces := by
  refine ⟨⟨?_, unquote_literalOf quote text⟩, ?_⟩
  · exact Lexeme.ofTerminal_string (.string quote (isQuoted_writtenChar quote text)) rest
  · intro source literal found
    obtain ⟨-, spells⟩ := Lexeme.ofTerminal_sound found
    cases spells with
    | @string first body opens quoted =>
      obtain ⟨pieces, rfl⟩ := exists_pieces_of_quoted quoted
      refine ⟨first, pieces, opens, rfl, unquote_assembled first pieces, ?_⟩
      intro other others same
      obtain ⟨rfl, rfl⟩ := assembled_inj (same : assembled first pieces = _)
      exact ⟨rfl, rfl⟩

/-- A text of two backslashes, both quotes and a line feed, with a quote after its literal; and the
escapes of a literal whose first one yields the start of another. -/
theorem literal_roundTrip_quotes :
    literalOf '"' ['\\', '\\', '"', '\'', '\n'] =
        ['"', '\\', '\\', '\\', '\\', '\\', '"', '\'', '\\', 'n', '"'] ∧
      Lexeme.ofTerminal .string (literalOf '"' ['\\', '\\', '"', '\'', '\n'] ++ ['"']) =
        some (literalOf '"' ['\\', '\\', '"', '\'', '\n']) ∧
      unquote (literalOf '"' ['\\', '\\', '"', '\'', '\n']) = ['\\', '\\', '"', '\'', '\n'] ∧
      ∃ first pieces, ['\'', '\\', '\\', 'n', '\\', 'q', '\''] = assembled first pieces ∧
        pieces.flatMap Piece.value = ['\\', 'n', '\\', 'q'] := by
  have quote : '"' = '"' ∨ '"' = '\'' := .inl rfl
  obtain ⟨⟨found, value⟩, strings⟩ :=
    literal_roundTrip quote ['\\', '\\', '"', '\'', '\n'] ['"']
  obtain ⟨first, pieces, -, shape, meaning, -⟩ :=
    strings ['\'', '\\', '\\', 'n', '\\', 'q', '\''] _ rfl
  exact ⟨rfl, found, value, first, pieces, shape, meaning.symm⟩

end IdlLint.Schema.Literal
