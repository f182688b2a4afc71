import IdlLint.Proofs.DocumentOfTree
import IdlLint.Proofs.TextLayout
import IdlLint.Schema.Parse

/-! Reading a document and the grammar. A text is read only as what a derivation of its tokens stands
for, and every derivation whose tokens are written apart is read as what it stands for. -/
namespace IdlLint.Schema

/-- The identifiers among the tokens are spelled unlike every keyword. -/
def PlainNames (tokens : List Token) : Prop :=
  ∀ token ∈ tokens, token.terminal = .identifier →
    ∀ keyword : Keyword, keyword.spelling ≠ token.text

/-- No decimal integer among the tokens is too long to be read. -/
def ShortIntegers (tokens : List Token) : Prop :=
  ∀ token ∈ tokens, token.terminal = .decimal → token.text.countP Char.isDigit ≤ 4300

/-! ### Integers that are too long -/

private theorem length_digits {text : List Char} (spells : Spells .decimal text) :
    (Literal.digits .decimal text).length = text.countP Char.isDigit := by
  cases spells with
  | @decimal sign run signed digits =>
    have plain : Lexeme.Leaves Lexeme.isSignMark (run ++ []) :=
      Lexeme.leaves_run digits.2 (.inl digits.1)
    rw [List.append_nil] at plain
    have marks : sign.countP Char.isDigit = 0 := by
      rcases signed with rfl | rfl | rfl <;> decide
    have count : run.countP Char.isDigit = run.length := List.countP_eq_length.mpr digits.2
    simp [Literal.digits, Lexeme.sign_append signed plain, marks, count]

private theorem excess_eq_none {token : Token} (spells : Spells token.terminal token.text)
    (short : token.terminal = .decimal → token.text.countP Char.isDigit ≤ 4300) :
    Literal.excess? token = none := by
  refine if_neg ?_
  rintro ⟨decimal, excess⟩
  have few := short decimal
  rw [decimal] at excess spells
  rw [length_digits spells] at excess
  exact absurd few (Nat.not_le.mpr excess)

private theorem spaced_spells {text : List Char} {tokens : List Token} (spaced : Spaced text tokens) :
    ∀ token ∈ tokens, Spells token.terminal token.text := by
  induction spaced with
  | done _ => exact fun _ member => absurd member List.not_mem_nil
  | token _ spells _ _ ih => exact List.forall_mem_cons.mpr ⟨spells, ih⟩

/-- The tokens with a space before each. -/
def written (tokens : List Token) : List Char :=
  tokens.flatMap fun token => ' ' :: token.text

private theorem stops_written (tokens : List Token) : Lexeme.Stops (written tokens) := by
  cases tokens with
  | nil => exact fun c head => by cases head
  | cons token tokens =>
    intro c head
    obtain rfl : ' ' = c := Option.some.inj head
    decide

/-- All tokens can be written apart. -/
theorem spaced_written {tokens : List Token}
    (spells : ∀ token ∈ tokens, Spells token.terminal token.text) :
    Spaced (written tokens) tokens := by
  induction tokens with
  | nil => exact .done fun _ member => absurd member List.not_mem_nil
  | cons token tokens ih =>
    obtain ⟨here, later⟩ := List.forall_mem_cons.mp spells
    have space : ∀ c ∈ [' '], Lexeme.isSpace c = true := by simp [Lexeme.isSpace]
    exact .token space here (stops_written tokens) (ih later)

/-- Where the tokens stand does not matter for the length of integers. -/
theorem findSome?_excess {placed tokens : List Token}
    (same : placed.map Token.unplaced = tokens.map Token.unplaced)
    (spells : ∀ token ∈ tokens, Spells token.terminal token.text) (short : ShortIntegers tokens) :
    placed.findSome? Literal.excess? = none := by
  refine List.findSome?_eq_none_iff.mpr fun token member => ?_
  have known := List.mem_map_of_mem (f := Token.unplaced) member
  rw [same] at known
  obtain ⟨given, inside, alike⟩ := List.mem_map.mp known
  calc Literal.excess? token
      = Literal.excess? token.unplaced := rfl
    _ = Literal.excess? given.unplaced := by rw [alike]
    _ = none := excess_eq_none (spells given inside) (short given inside)

/-! ### Reading -/

theorem ofText_sound {text : List Char} {tree : Tree} (result : Tree.ofText text = .ok tree) :
    Grown (.rule .document) tree ∧ Layout .origin text tree.tokens := by
  obtain ⟨tokens, layout, completes⟩ := Derivation.read_sound Machine.initial_coherent result
  obtain ⟨grown, rfl⟩ := Machine.initial_completes_iff.mp completes
  exact ⟨grown, layout⟩

/-- The tokens of a derivation that are written apart are read as the same derivation, with the places
that the tokens have in the text. -/
theorem ofText_complete {text : List Char} {tree : Tree} (derived : Derives (.rule .document) tree)
    (plain : PlainNames tree.tokens) (spaced : Spaced text tree.tokens) :
    ∃ moved, Tree.ofText text = .ok moved ∧ Grown (.rule .document) moved ∧
      moved.tokens.map Token.unplaced = tree.tokens.map Token.unplaced ∧
      moved.unplaced = tree.unplaced := by
  obtain ⟨placed, same, reads⟩ := Derivation.read_complete spaced plain .origin
  obtain ⟨moved, grown, rfl, alike⟩ := derived.movable placed same
  have completes := Machine.initial_completes_iff.mpr ⟨grown, rfl⟩
  exact ⟨moved, reads _ _ moved Machine.initial_coherent completes, grown, same, alike⟩

theorem parse_eq_rejected_iff {text : List Char} {e : ParseError} :
    parse text = .error (.rejected e) ↔ Tree.ofText text = .error e := by
  unfold parse
  cases Tree.ofText text with
  | error e' => simp
  | ok tree =>
    dsimp only
    cases tree.tokens.findSome? Literal.excess? <;> simp

theorem parse_eq_ok_iff {text : List Char} {d : Document} :
    parse text = .ok d ↔ ∃ tree, Tree.ofText text = .ok tree ∧
      tree.tokens.findSome? Literal.excess? = none ∧ Document.ofTree tree = d := by
  unfold parse
  cases Tree.ofText text with
  | error e => simp
  | ok tree =>
    dsimp only
    cases excess : tree.tokens.findSome? Literal.excess? with
    | none =>
      constructor
      · intro same
        exact ⟨tree, rfl, excess, Except.ok.inj same⟩
      · rintro ⟨_, ⟨⟩, -, rfl⟩
        rfl
    | some count =>
      constructor
      · intro same
        cases same
      · rintro ⟨_, ⟨⟩, none, -⟩
        rw [excess] at none
        cases none

theorem document_ofTree {tree : Tree} (derived : Derives (.rule .document) tree) :
    Piece.ofTree tree = .document (Document.ofTree tree) := by
  obtain ⟨⟨d, same⟩, -⟩ := Derives.denotes derived
  rw [Document.ofTree, same]

/-- A derivation with other places stands for the document with those places. -/
theorem ofTree_relocate {tree : Tree} (derived : Derives (.rule .document) tree)
    (f : Position → Position) :
    Piece.ofTree (tree.relocate f) = .document ((Document.ofTree tree).relocate f) := by
  rw [(Derives.denotes derived).2 f, document_ofTree derived]
  rfl

/-- Derivations that differ in places only stand for documents that differ in places only. -/
theorem unplaced_ofTree {one two : Tree} (derived : Derives (.rule .document) one)
    (derived' : Derives (.rule .document) two) (alike : one.unplaced = two.unplaced) :
    (Document.ofTree one).unplaced = (Document.ofTree two).unplaced := by
  have same := congrArg Piece.ofTree alike
  rw [Tree.unplaced, Tree.unplaced, ofTree_relocate derived, ofTree_relocate derived'] at same
  exact Piece.document.inj same

/-- Reading accepts exactly the grammar and builds the document that the derivation stands for. A text
that is read is made up of the tokens of a derivation, with nothing but white space and comments around
them. Conversely, take any derivation in which no identifier is spelled like a keyword and no decimal
integer is too long. Any text with its tokens in order and white space between neighbours is read as the
same document, up to lines and columns. -/
theorem parse_derivation :
    (∀ text d, parse text = .ok d → ∃ tree, Derives (.rule .document) tree ∧ Placed tree ∧
      Layout .origin text tree.tokens ∧ Piece.ofTree tree = .document d) ∧
    ∀ tree text, Derives (.rule .document) tree → PlainNames tree.tokens →
      ShortIntegers tree.tokens → Spaced text tree.tokens →
      ∃ d e, parse text = .ok d ∧ Piece.ofTree tree = .document e ∧ d.unplaced = e.unplaced := by
  constructor
  · intro text d result
    unfold parse at result
    split at result
    · cases result
    · rename_i tree read
      obtain ⟨⟨derived, placed⟩, layout⟩ := ofText_sound read
      split at result
      · cases result
      · cases result
        exact ⟨tree, derived, placed, layout, document_ofTree derived⟩
  · intro tree text derived plain short spaced
    obtain ⟨moved, read, grown, tokens, alike⟩ := ofText_complete derived plain spaced
    have readable := findSome?_excess tokens (spaced_spells spaced) short
    refine ⟨Document.ofTree moved, Document.ofTree tree, ?_, document_ofTree derived,
      unplaced_ofTree grown.1 derived alike⟩
    simp only [parse, read, readable]

/-- An enumeration with one item, as a derivation whose tokens have no places. -/
def smallEnum : Tree :=
  let leaf := fun terminal (text : String) => Tree.leaf ⟨terminal, text.toList, .nowhere⟩
  let value := Tree.node .enumValue .nowhere
    [[leaf (.mark .equals) "="], [.node .integer .nowhere [[leaf .decimal "1"]]]]
  let item := Tree.node .enumItem .nowhere [[leaf .identifier "A"], [value], [],
    [.node .separator .nowhere [[leaf (.mark .semicolon) ";"]]]]
  let enum := Tree.node .enum .nowhere [[leaf (.word .enum) "enum"], [leaf .identifier "E"],
    [leaf (.mark .leftBrace) "\x7b"], [item], [leaf (.mark .rightBrace) "\x7d"], []]
  .node .document .nowhere [[.node .item .nowhere [[enum], []]]]

/-- The enumeration is read from its text, and what is read is laid out by a derivation. -/
theorem parse_derivation_smallEnum :
    (∃ d e, parse (written smallEnum.tokens) = .ok d ∧ Piece.ofTree smallEnum = .document e ∧
      d.unplaced = e.unplaced) ∧
    ∃ tree, Derives (.rule .document) tree ∧ Layout .origin (written smallEnum.tokens) tree.tokens := by
  have spelled : ∀ token ∈ smallEnum.tokens,
      Lexeme.ofTerminal token.terminal token.text = some token.text := by decide
  have names : ∀ token ∈ smallEnum.tokens, token.terminal = .identifier →
      ∀ keyword ∈ Keyword.all, keyword.spelling ≠ token.text := by decide
  have found := parse_derivation.2 smallEnum (written smallEnum.tokens) (by decide)
    (fun token member name keyword => names token member name keyword (Keyword.mem_all keyword))
    (by unfold ShortIntegers; decide)
    (spaced_written fun token member => (Lexeme.ofTerminal_sound (spelled token member)).2)
  refine ⟨found, ?_⟩
  obtain ⟨d, e, read, -⟩ := found
  obtain ⟨tree, derived, -, layout, -⟩ := parse_derivation.1 _ d read
  exact ⟨tree, derived, layout⟩

end IdlLint.Schema
