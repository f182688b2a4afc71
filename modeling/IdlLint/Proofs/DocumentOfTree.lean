import IdlLint.Proofs.Relocation

/-! The documents that derivations stand for. Every derivation stands for something of the kind that
its symbol asks for, and a derivation with other places stands for the same thing with those places. -/
namespace IdlLint.Schema

/-- The document without places. -/
def Document.unplaced (d : Document) : Document :=
  d.relocate fun _ => .nowhere

/-! ### Kinds of pieces -/

namespace Piece

/-- What a piece can be that stands for a symbol. -/
def StandsFor : Symbol → Piece → Prop
  | .terminal terminal, piece => ∃ t : Token, piece = .token t ∧ t.terminal = terminal
  | .rule rule, piece =>
    match rule with
    | .document => ∃ d, piece = .document d
    | .item => (∃ h, piece = .header h) ∨ ∃ d, piece = .definition d
    | .inclusion | .cppInclusion | .scoping => ∃ h, piece = .header h
    | .constant | .typedef | .enum | .struct | .union | .exception | .service =>
      ∃ d, piece = .definition d
    | .separator | .scopeName | .scopeTarget | .parent | .requiredness | .cppType | .noteValue =>
      ∃ t, piece = .token t
    | .enumItem => ∃ i, piece = .enumItem i
    | .enumValue | .fieldId | .integer => ∃ n, piece = .integer n
    | .function => ∃ f, piece = .function f
    | .result => (∃ t, piece = .token t) ∨ ∃ t, piece = .type t
    | .throws => ∃ fs, piece = .fields fs
    | .field => ∃ f, piece = .field f
    | .type => ∃ t, piece = .type t
    | .default | .value | .element => ∃ v, piece = .value v
    | .entry => ∃ e, piece = .entry e
    | .annotations => ∃ as, piece = .annotations as
    | .note => ∃ a, piece = .note a

end Piece

/-! ### Nodes -/

private theorem Fits.once {P : Symbol → Piece → Prop} {symbol : Symbol} {slot : List Piece}
    (fits : Fits P ⟨.once, symbol⟩ slot) : ∃ piece, slot = [piece] ∧ P symbol piece := by
  obtain ⟨allowed, all⟩ := fits
  obtain ⟨piece, rfl⟩ := List.length_eq_one_iff.mp (by simpa [Element.allows] using allowed)
  exact ⟨piece, rfl, all piece (List.mem_singleton.mpr rfl)⟩

private theorem Fits.optional {P : Symbol → Piece → Prop} {symbol : Symbol} {slot : List Piece}
    (fits : Fits P ⟨.optional, symbol⟩ slot) :
    slot = [] ∨ ∃ piece, slot = [piece] ∧ P symbol piece := by
  obtain ⟨allowed, all⟩ := fits
  rcases slot with _ | ⟨piece, _ | ⟨other, rest⟩⟩
  · exact .inl rfl
  · exact .inr ⟨piece, rfl, all piece (List.mem_singleton.mpr rfl)⟩
  · simp [Element.allows] at allowed

/-- The slots follow one of the rule's alternatives. -/
def Follows (rule : Rule) (slots : List (List Piece)) : Prop :=
  ∃ alternative ∈ rule.alternatives, List.Forall₂ (Fits Piece.StandsFor) alternative slots

private theorem Follows.only {rule : Rule} {alternative : List Element} {slots : List (List Piece)}
    (follows : Follows rule slots) (single : rule.alternatives = [alternative]) :
    List.Forall₂ (Fits Piece.StandsFor) alternative slots := by
  obtain ⟨chosen, member, fits⟩ := follows
  rw [single] at member
  obtain rfl := List.mem_singleton.mp member
  exact fits

/-- The ways to fill the slots of a rule, as far as what the slots stand for depends on them. -/
inductive Shape : Rule → List (List Piece) → Prop where
  | document (items : List Piece) : Shape .document [items]
  | item {piece : Piece} (stands : piece.StandsFor (.rule .item)) (after : List Piece) :
      Shape .item [[piece], after]
  | inclusion (word : List Piece) (path : Token) : Shape .inclusion [word, [.token path]]
  | cppInclusion (word : List Piece) (path : Token) : Shape .cppInclusion [word, [.token path]]
  | scoping (word : List Piece) (language name : Token) :
      Shape .scoping [word, [.token language], [.token name]]
  /-- Rules that are a choice between tokens. -/
  | choice {rule : Rule}
      (kind : rule ∈ [Rule.separator, .scopeName, .scopeTarget, .requiredness]) (token : Token) :
      Shape rule [[.token token]]
  /-- Rules that put a token in front of another rule. -/
  | marked {rule : Rule} {piece : Piece} (kind : rule = .enumValue ∨ rule = .default)
      (stands : piece.StandsFor (.rule rule)) (mark : List Piece) :
      Shape rule [mark, [piece]]
  /-- Rules that put a token in front of another one. -/
  | labelled {rule : Rule} (kind : rule = .parent ∨ rule = .cppType ∨ rule = .noteValue)
      (label : List Piece) (token : Token) :
      Shape rule [label, [.token token]]
  /-- Rules that put a token, or perhaps a separator, after another rule. -/
  | ended {rule : Rule} {piece : Piece} (kind : rule = .fieldId ∨ rule = .element)
      (stands : piece.StandsFor (.rule rule)) (after : List Piece) :
      Shape rule [[piece], after]
  | constant (word mark notes : List Piece) (type : TypeExpr) (name : Token) (value : Value) :
      Shape .constant [word, [.type type], [.token name], mark, [.value value], notes]
  | typedef (word notes : List Piece) (type : TypeExpr) (name : Token) :
      Shape .typedef [word, [.type type], [.token name], notes]
  | enum (word left items right notes : List Piece) (name : Token) :
      Shape .enum [word, [.token name], left, items, right, notes]
  | struct {rule : Rule} (kind : rule = .struct ∨ rule = .union)
      (word all left fields right notes : List Piece) (name : Token) :
      Shape rule [word, [.token name], all, left, fields, right, notes]
  | exception (word left fields right notes : List Piece) (name : Token) :
      Shape .exception [word, [.token name], left, fields, right, notes]
  | service (word parent left functions right notes : List Piece) (name : Token) :
      Shape .service [word, [.token name], parent, left, functions, right, notes]
  | enumItem (value notes after : List Piece) (name : Token) :
      Shape .enumItem [[.token name], value, notes, after]
  | void (token : Token) : Shape .result [[.token token]]
  | result (type : TypeExpr) : Shape .result [[.type type]]
  | throws (word left fields right : List Piece) : Shape .throws [word, left, fields, right]
  | function (oneway left parameters right throws notes after : List Piece) (result : Piece)
      (name : Token) :
      Shape .function
        [oneway, [result], [.token name], left, parameters, right, throws, notes, after]
  | field (id requiredness default notes after : List Piece) (type : TypeExpr) (name : Token) :
      Shape .field [id, requiredness, [.type type], [.token name], default, notes, after]
  | named (notes : List Piece) (name : Token) : Shape .type [[.token name], notes]
  | map (cpp left comma right notes : List Piece) (word : Token) (key value : TypeExpr) :
      Shape .type [[.token word], cpp, left, [.type key], comma, [.type value], right, notes]
  | set {notes : List Piece} (noted : notes = [] ∨ ∃ as, notes = [.annotations as])
      (cpp right : List Piece) (word left : Token) (value : TypeExpr) :
      Shape .type [[.token word], cpp, [.token left], [.type value], right, notes]
  | list {notes : List Piece} (noted : notes = [] ∨ ∃ as, notes = [.annotations as])
      (left cpp : List Piece) (word right : Token) (value : TypeExpr) :
      Shape .type [[.token word], left, [.type value], [.token right], cpp, notes]
  | integerValue (n : Int) : Shape .value [[.integer n]]
  | tokenValue (token : Token) : Shape .value [[.token token]]
  | listValue (items right : List Piece) (text : List Char) (position : Position) :
      Shape .value [[.token ⟨.mark .leftBracket, text, position⟩], items, right]
  | mapValue (entries right : List Piece) (text : List Char) (position : Position) :
      Shape .value [[.token ⟨.mark .leftBrace, text, position⟩], entries, right]
  | entry (colon after : List Piece) (key value : Value) :
      Shape .entry [[.value key], colon, [.value value], after]
  | integer (token : Token) : Shape .integer [[.token token]]
  | annotations (left notes right : List Piece) : Shape .annotations [left, notes, right]
  | note (value after : List Piece) (name : Token) : Shape .note [[.token name], value, after]

def headerRules : List Rule := [.inclusion, .cppInclusion, .scoping]

def definitionRules : List Rule :=
  [.constant, .typedef, .enum, .struct, .union, .exception, .service]

private theorem standsFor_item {inner : Rule} (known : inner ∈ headerRules ++ definitionRules)
    {piece : Piece} (stands : piece.StandsFor (.rule inner)) : piece.StandsFor (.rule .item) := by
  rcases List.mem_append.mp known with header | definition
  · simp only [headerRules, List.mem_cons, List.not_mem_nil, or_false] at header
    rcases header with rfl | rfl | rfl <;> exact .inl stands
  · simp only [definitionRules, List.mem_cons, List.not_mem_nil, or_false] at definition
    rcases definition with rfl | rfl | rfl | rfl | rfl | rfl | rfl <;> exact .inr stands

section Shapes

variable {slots : List (List Piece)}

private theorem shape_item (follows : Follows .item slots) : Shape .item slots := by
  obtain ⟨alternative, chosen, fits⟩ := follows
  have listed : Rule.item.alternatives = (headerRules ++ definitionRules).map fun inner =>
      [Element.one inner, Element.optional .separator] := rfl
  rw [listed] at chosen
  obtain ⟨inner, known, rfl⟩ := List.mem_map.mp chosen
  obtain _ | ⟨part, _ | ⟨_, _ | _⟩⟩ := fits
  obtain ⟨piece, rfl, stands⟩ := Fits.once part
  exact .item (standsFor_item known stands) _

private theorem shape_header {rule : Rule} (kind : rule ∈ headerRules)
    (follows : Follows rule slots) : Shape rule slots := by
  simp only [headerRules, List.mem_cons, List.not_mem_nil, or_false] at kind
  rcases kind with rfl | rfl | rfl
  · obtain _ | ⟨_, _ | ⟨path, _ | _⟩⟩ := follows.only rfl
    obtain ⟨_, rfl, path, rfl, -⟩ := Fits.once path
    exact .inclusion ..
  · obtain _ | ⟨_, _ | ⟨path, _ | _⟩⟩ := follows.only rfl
    obtain ⟨_, rfl, path, rfl, -⟩ := Fits.once path
    exact .cppInclusion ..
  · obtain _ | ⟨_, _ | ⟨language, _ | ⟨name, _ | _⟩⟩⟩ := follows.only rfl
    obtain ⟨_, rfl, language, rfl⟩ := Fits.once language
    obtain ⟨_, rfl, name, rfl⟩ := Fits.once name
    exact .scoping ..

private theorem shape_choice {rule : Rule}
    (kind : rule ∈ [Rule.separator, .scopeName, .scopeTarget, .requiredness])
    (follows : Follows rule slots) : Shape rule slots := by
  have single : ∀ alternative ∈ rule.alternatives,
      ∃ terminal, alternative = [Element.token terminal] := by
    simp only [List.mem_cons, List.not_mem_nil, or_false] at kind
    rcases kind with rfl | rfl | rfl | rfl <;>
      simp [Rule.alternatives, Element.mark, Element.token, Element.word]
  obtain ⟨alternative, chosen, fits⟩ := follows
  obtain ⟨terminal, rfl⟩ := single alternative chosen
  obtain _ | ⟨part, _ | _⟩ := fits
  obtain ⟨_, rfl, token, rfl, -⟩ := Fits.once part
  exact .choice kind token

private theorem shape_marked {rule : Rule} (kind : rule = .enumValue ∨ rule = .default)
    (follows : Follows rule slots) : Shape rule slots := by
  rcases kind with rfl | rfl
  all_goals
    obtain _ | ⟨_, _ | ⟨part, _ | _⟩⟩ := follows.only rfl
    obtain ⟨piece, rfl, stands⟩ := Fits.once part
    refine .marked (by decide) ?_ _
    exact stands

private theorem shape_labelled {rule : Rule}
    (kind : rule = .parent ∨ rule = .cppType ∨ rule = .noteValue) (follows : Follows rule slots) :
    Shape rule slots := by
  rcases kind with rfl | rfl | rfl
  all_goals
    obtain _ | ⟨_, _ | ⟨part, _ | _⟩⟩ := follows.only rfl
    obtain ⟨_, rfl, token, rfl, -⟩ := Fits.once part
    exact .labelled (by decide) _ token

private theorem shape_ended {rule : Rule} (kind : rule = .fieldId ∨ rule = .element)
    (follows : Follows rule slots) : Shape rule slots := by
  rcases kind with rfl | rfl
  all_goals
    obtain _ | ⟨part, _ | ⟨_, _ | _⟩⟩ := follows.only rfl
    obtain ⟨piece, rfl, stands⟩ := Fits.once part
    refine .ended (by decide) ?_ _
    exact stands

private theorem shape_constant (follows : Follows .constant slots) : Shape .constant slots := by
  obtain _ | ⟨_, _ | ⟨type, _ | ⟨name, _ | ⟨_, _ | ⟨value, _ | ⟨_, _ | _⟩⟩⟩⟩⟩⟩ := follows.only rfl
  obtain ⟨_, rfl, type, rfl⟩ := Fits.once type
  obtain ⟨_, rfl, name, rfl, -⟩ := Fits.once name
  obtain ⟨_, rfl, value, rfl⟩ := Fits.once value
  exact .constant ..

private theorem shape_typedef (follows : Follows .typedef slots) : Shape .typedef slots := by
  obtain _ | ⟨_, _ | ⟨type, _ | ⟨name, _ | ⟨_, _ | _⟩⟩⟩⟩ := follows.only rfl
  obtain ⟨_, rfl, type, rfl⟩ := Fits.once type
  obtain ⟨_, rfl, name, rfl, -⟩ := Fits.once name
  exact .typedef ..

private theorem shape_enum (follows : Follows .enum slots) : Shape .enum slots := by
  obtain _ | ⟨_, _ | ⟨name, _ | ⟨_, _ | ⟨_, _ | ⟨_, _ | ⟨_, _ | _⟩⟩⟩⟩⟩⟩ := follows.only rfl
  obtain ⟨_, rfl, name, rfl, -⟩ := Fits.once name
  exact .enum ..

private theorem shape_struct {rule : Rule} (kind : rule = .struct ∨ rule = .union)
    (follows : Follows rule slots) : Shape rule slots := by
  rcases kind with rfl | rfl
  all_goals
    obtain _ | ⟨_, _ | ⟨name, _ | ⟨_, _ | ⟨_, _ | ⟨_, _ | ⟨_, _ | ⟨_, _ | _⟩⟩⟩⟩⟩⟩⟩ := follows.only rfl
    obtain ⟨_, rfl, name, rfl, -⟩ := Fits.once name
    exact .struct (by decide) ..

private theorem shape_exception (follows : Follows .exception slots) : Shape .exception slots := by
  obtain _ | ⟨_, _ | ⟨name, _ | ⟨_, _ | ⟨_, _ | ⟨_, _ | ⟨_, _ | _⟩⟩⟩⟩⟩⟩ := follows.only rfl
  obtain ⟨_, rfl, name, rfl, -⟩ := Fits.once name
  exact .exception ..

private theorem shape_service (follows : Follows .service slots) : Shape .service slots := by
  obtain _ | ⟨_, _ | ⟨name, _ | ⟨_, _ | ⟨_, _ | ⟨_, _ | ⟨_, _ | ⟨_, _ | _⟩⟩⟩⟩⟩⟩⟩ := follows.only rfl
  obtain ⟨_, rfl, name, rfl, -⟩ := Fits.once name
  exact .service ..

private theorem shape_enumItem (follows : Follows .enumItem slots) : Shape .enumItem slots := by
  obtain _ | ⟨name, _ | ⟨_, _ | ⟨_, _ | ⟨_, _ | _⟩⟩⟩⟩ := follows.only rfl
  obtain ⟨_, rfl, name, rfl, -⟩ := Fits.once name
  exact .enumItem ..

private theorem shape_result (follows : Follows .result slots) : Shape .result slots := by
  obtain ⟨alternative, chosen, fits⟩ := follows
  have listed : alternative = [.word .void] ∨ alternative = [.one .type] := by
    simpa [Rule.alternatives] using chosen
  rcases listed with rfl | rfl
  · obtain _ | ⟨part, _ | _⟩ := fits
    obtain ⟨_, rfl, token, rfl, -⟩ := Fits.once part
    exact .void token
  · obtain _ | ⟨part, _ | _⟩ := fits
    obtain ⟨_, rfl, type, rfl⟩ := Fits.once part
    exact .result type

private theorem shape_throws (follows : Follows .throws slots) : Shape .throws slots := by
  obtain _ | ⟨_, _ | ⟨_, _ | ⟨_, _ | ⟨_, _ | _⟩⟩⟩⟩ := follows.only rfl
  exact .throws ..

private theorem shape_function (follows : Follows .function slots) : Shape .function slots := by
  obtain _ | ⟨_, _ | ⟨result, _ | ⟨name, _ | ⟨_, _ | ⟨_, _ | ⟨_, _ | ⟨_, _ | ⟨_, _ | ⟨_, _ | _⟩⟩⟩⟩⟩⟩⟩⟩⟩ :=
    follows.only rfl
  obtain ⟨result, rfl, -⟩ := Fits.once result
  obtain ⟨_, rfl, name, rfl, -⟩ := Fits.once name
  exact .function ..

private theorem shape_field (follows : Follows .field slots) : Shape .field slots := by
  obtain _ | ⟨_, _ | ⟨_, _ | ⟨type, _ | ⟨name, _ | ⟨_, _ | ⟨_, _ | ⟨_, _ | _⟩⟩⟩⟩⟩⟩⟩ := follows.only rfl
  obtain ⟨_, rfl, type, rfl⟩ := Fits.once type
  obtain ⟨_, rfl, name, rfl, -⟩ := Fits.once name
  exact .field ..

private theorem noted_of_fits {slot : List Piece}
    (fits : Fits Piece.StandsFor (.optional .annotations) slot) :
    slot = [] ∨ ∃ as, slot = [.annotations as] := by
  obtain rfl | ⟨_, rfl, as, rfl⟩ := Fits.optional fits
  · exact .inl rfl
  · exact .inr ⟨as, rfl⟩

private theorem shape_type (follows : Follows .type slots) : Shape .type slots := by
  obtain ⟨alternative, chosen, fits⟩ := follows
  simp only [Rule.alternatives, List.mem_cons, List.not_mem_nil, or_false] at chosen
  rcases chosen with rfl | rfl | rfl | rfl
  · obtain _ | ⟨name, _ | ⟨_, _ | _⟩⟩ := fits
    obtain ⟨_, rfl, name, rfl, -⟩ := Fits.once name
    exact .named ..
  · obtain _ | ⟨word, _ | ⟨_, _ | ⟨_, _ | ⟨key, _ | ⟨_, _ | ⟨value, _ | ⟨_, _ | ⟨_, _ | _⟩⟩⟩⟩⟩⟩⟩⟩ :=
      fits
    obtain ⟨_, rfl, _, rfl, -⟩ := Fits.once word
    obtain ⟨_, rfl, key, rfl⟩ := Fits.once key
    obtain ⟨_, rfl, value, rfl⟩ := Fits.once value
    exact .map ..
  · obtain _ | ⟨word, _ | ⟨_, _ | ⟨mark, _ | ⟨value, _ | ⟨_, _ | ⟨notes, _ | _⟩⟩⟩⟩⟩⟩ := fits
    obtain ⟨_, rfl, _, rfl, -⟩ := Fits.once word
    obtain ⟨_, rfl, _, rfl, -⟩ := Fits.once mark
    obtain ⟨_, rfl, value, rfl⟩ := Fits.once value
    exact .set (noted_of_fits notes) ..
  · obtain _ | ⟨word, _ | ⟨_, _ | ⟨value, _ | ⟨mark, _ | ⟨_, _ | ⟨notes, _ | _⟩⟩⟩⟩⟩⟩ := fits
    obtain ⟨_, rfl, _, rfl, -⟩ := Fits.once word
    obtain ⟨_, rfl, _, rfl, -⟩ := Fits.once mark
    obtain ⟨_, rfl, value, rfl⟩ := Fits.once value
    exact .list (noted_of_fits notes) ..

private theorem shape_value (follows : Follows .value slots) : Shape .value slots := by
  obtain ⟨alternative, chosen, fits⟩ := follows
  simp only [Rule.alternatives, List.mem_cons, List.not_mem_nil, or_false] at chosen
  rcases chosen with rfl | rfl | rfl | rfl | rfl | rfl
  · obtain _ | ⟨part, _ | _⟩ := fits
    obtain ⟨_, rfl, value, rfl⟩ := Fits.once part
    exact .integerValue value
  iterate 3
    · obtain _ | ⟨part, _ | _⟩ := fits
      obtain ⟨_, rfl, token, rfl, -⟩ := Fits.once part
      exact .tokenValue token
  · obtain _ | ⟨mark, _ | ⟨_, _ | ⟨_, _ | _⟩⟩⟩ := fits
    obtain ⟨_, rfl, ⟨_, _, _⟩, rfl, rfl⟩ := Fits.once mark
    exact .listValue ..
  · obtain _ | ⟨mark, _ | ⟨_, _ | ⟨_, _ | _⟩⟩⟩ := fits
    obtain ⟨_, rfl, ⟨_, _, _⟩, rfl, rfl⟩ := Fits.once mark
    exact .mapValue ..

private theorem shape_entry (follows : Follows .entry slots) : Shape .entry slots := by
  obtain _ | ⟨key, _ | ⟨_, _ | ⟨value, _ | ⟨_, _ | _⟩⟩⟩⟩ := follows.only rfl
  obtain ⟨_, rfl, key, rfl⟩ := Fits.once key
  obtain ⟨_, rfl, value, rfl⟩ := Fits.once value
  exact .entry ..

private theorem shape_integer (follows : Follows .integer slots) : Shape .integer slots := by
  obtain ⟨alternative, chosen, fits⟩ := follows
  have listed : ∃ terminal, alternative = [Element.token terminal] := by
    simp only [Rule.alternatives, List.mem_cons, List.not_mem_nil, or_false] at chosen
    rcases chosen with rfl | rfl <;> exact ⟨_, rfl⟩
  obtain ⟨terminal, rfl⟩ := listed
  obtain _ | ⟨part, _ | _⟩ := fits
  obtain ⟨_, rfl, token, rfl, -⟩ := Fits.once part
  exact .integer token

private theorem shape_annotations (follows : Follows .annotations slots) :
    Shape .annotations slots := by
  obtain _ | ⟨_, _ | ⟨_, _ | ⟨_, _ | _⟩⟩⟩ := follows.only rfl
  exact .annotations ..

private theorem shape_note (follows : Follows .note slots) : Shape .note slots := by
  obtain _ | ⟨name, _ | ⟨_, _ | ⟨_, _ | _⟩⟩⟩ := follows.only rfl
  obtain ⟨_, rfl, name, rfl, -⟩ := Fits.once name
  exact .note ..

theorem shape_of_follows {rule : Rule} (follows : Follows rule slots) : Shape rule slots := by
  cases rule with
  | document =>
    obtain _ | ⟨_, _ | _⟩ := follows.only rfl
    exact .document _
  | item => exact shape_item follows
  | inclusion | cppInclusion | scoping => exact shape_header (by decide) follows
  | separator | scopeName | scopeTarget | requiredness => exact shape_choice (by decide) follows
  | enumValue | default => exact shape_marked (by decide) follows
  | parent | cppType | noteValue => exact shape_labelled (by decide) follows
  | fieldId | element => exact shape_ended (by decide) follows
  | constant => exact shape_constant follows
  | typedef => exact shape_typedef follows
  | enum => exact shape_enum follows
  | struct | union => exact shape_struct (by decide) follows
  | exception => exact shape_exception follows
  | service => exact shape_service follows
  | enumItem => exact shape_enumItem follows
  | function => exact shape_function follows
  | result => exact shape_result follows
  | throws => exact shape_throws follows
  | field => exact shape_field follows
  | type => exact shape_type follows
  | value => exact shape_value follows
  | entry => exact shape_entry follows
  | integer => exact shape_integer follows
  | annotations => exact shape_annotations follows
  | note => exact shape_note follows

end Shapes

/-- A node of the rule stands for what the rule asks for, and with other places for the same. -/
def Agrees (rule : Rule) (slots : List (List Piece)) : Prop :=
  ∀ start, Piece.StandsFor (.rule rule) (assemble rule start slots) ∧
    ∀ f, assemble rule (f start) (slots.map (List.map (Piece.relocate f))) =
      (assemble rule start slots).relocate f

private theorem agrees_of_follows {rule : Rule}
    {slots : List (List Piece)} (follows : Follows rule slots) : Agrees rule slots := by
  intro start
  cases shape_of_follows follows with
  | document items =>
    refine ⟨⟨_, rfl⟩, fun f => ?_⟩
    change Piece.document ⟨List.filterMap _ _, List.filterMap _ _⟩ = _
    rw [Piece.headers_relocate, Piece.definitions_relocate]
    rfl
  | item stands => exact ⟨stands, fun _ => rfl⟩
  | inclusion | cppInclusion | scoping | integer | entry | integerValue => exact ⟨⟨_, rfl⟩, fun _ => rfl⟩
  | choice kind =>
    simp only [List.mem_cons, List.not_mem_nil, or_false] at kind
    rcases kind with rfl | rfl | rfl | rfl <;> exact ⟨⟨_, rfl⟩, fun _ => rfl⟩
  | marked kind stands => rcases kind with rfl | rfl <;> exact ⟨stands, fun _ => rfl⟩
  | labelled kind => rcases kind with rfl | rfl | rfl <;> exact ⟨⟨_, rfl⟩, fun _ => rfl⟩
  | ended kind stands => rcases kind with rfl | rfl <;> exact ⟨stands, fun _ => rfl⟩
  | constant =>
    refine ⟨⟨_, rfl⟩, fun f => ?_⟩
    change Piece.definition (.constant ⟨_, _, _, Piece.annotationsOf _, _⟩) = _
    rw [Piece.annotationsOf_relocate]
    rfl
  | typedef =>
    refine ⟨⟨_, rfl⟩, fun f => ?_⟩
    change Piece.definition (.typedef ⟨_, _, Piece.annotationsOf _, _⟩) = _
    rw [Piece.annotationsOf_relocate]
    rfl
  | enum =>
    refine ⟨⟨_, rfl⟩, fun f => ?_⟩
    change Piece.definition (.enum ⟨_, List.filterMap _ _, Piece.annotationsOf _, _⟩) = _
    rw [Piece.enumItems_relocate, Piece.annotationsOf_relocate]
    rfl
  | struct kind =>
    rcases kind with rfl | rfl
    all_goals
      refine ⟨⟨_, rfl⟩, fun f => ?_⟩
      change Piece.definition (.struct ⟨_, _, List.filterMap _ _, Piece.annotationsOf _, _⟩) = _
      rw [Piece.fields_relocate, Piece.annotationsOf_relocate]
      rfl
  | exception =>
    refine ⟨⟨_, rfl⟩, fun f => ?_⟩
    change Piece.definition (.struct ⟨_, _, List.filterMap _ _, Piece.annotationsOf _, _⟩) = _
    rw [Piece.fields_relocate, Piece.annotationsOf_relocate]
    rfl
  | service =>
    refine ⟨⟨_, rfl⟩, fun f => ?_⟩
    change Piece.definition (.service ⟨_, List.filterMap _ _, Option.bind (List.head? _) _,
      Piece.annotationsOf _, _⟩) = _
    rw [Piece.functions_relocate, Piece.name_relocate, Piece.annotationsOf_relocate]
    rfl
  | enumItem =>
    refine ⟨⟨_, rfl⟩, fun f => ?_⟩
    change Piece.enumItem ⟨_, Option.bind (List.head? _) _, Piece.annotationsOf _, _⟩ = _
    rw [Piece.integer_relocate, Piece.annotationsOf_relocate]
    rfl
  | void => exact ⟨.inl ⟨_, rfl⟩, fun _ => rfl⟩
  | result => exact ⟨.inr ⟨_, rfl⟩, fun _ => rfl⟩
  | throws =>
    refine ⟨⟨_, rfl⟩, fun f => ?_⟩
    change Piece.fields (List.filterMap _ _) = _
    rw [Piece.fields_relocate]
    rfl
  | function =>
    refine ⟨⟨_, rfl⟩, fun f => ?_⟩
    change Piece.function ⟨_, Piece.type? _, List.filterMap _ _, Piece.fieldsOf _,
      !List.isEmpty (List.map _ _), Piece.annotationsOf _, _⟩ = _
    rw [Piece.type?_relocate, Piece.fields_relocate, Piece.fieldsOf_relocate, List.isEmpty_map,
      Piece.annotationsOf_relocate]
    rfl
  | field =>
    refine ⟨⟨_, rfl⟩, fun f => ?_⟩
    change Piece.field ⟨_, _, Option.bind (List.head? _) _, Option.bind (List.head? _) _,
      Option.bind (List.head? _) _, Piece.annotationsOf _, _⟩ = _
    rw [Piece.integer_relocate, Piece.requiredness_relocate, Piece.value_relocate,
      Piece.annotationsOf_relocate]
    rfl
  | named =>
    refine ⟨⟨_, rfl⟩, fun f => ?_⟩
    change Piece.type (.ofName _ (Piece.annotationsOf _) _) = Piece.type (TypeExpr.relocate f _)
    rw [Piece.annotationsOf_relocate, relocate_ofName]
    rfl
  | map =>
    refine ⟨⟨_, rfl⟩, fun f => ?_⟩
    change Piece.type (.map _ _ (Piece.annotationsOf _) _) = _
    rw [Piece.annotationsOf_relocate]
    rfl
  | set noted | list noted =>
    rcases noted with rfl | ⟨_, rfl⟩ <;> exact ⟨⟨_, rfl⟩, fun _ => rfl⟩
  | tokenValue =>
    refine ⟨⟨_, rfl⟩, fun f => ?_⟩
    change Piece.value (.ofToken _ _) = Piece.value (Value.relocate f _)
    rw [relocate_ofToken]
  | listValue =>
    refine ⟨⟨_, rfl⟩, fun f => ?_⟩
    change Piece.value (.list (List.filterMap _ _) _) = Piece.value (.list (Value.relocateList f _) _)
    rw [Piece.values_relocate, Value.relocateList_eq_map]
  | mapValue =>
    refine ⟨⟨_, rfl⟩, fun f => ?_⟩
    change Piece.value (.map (List.filterMap _ _) _) = Piece.value (.map (Entry.relocateList f _) _)
    rw [Piece.entries_relocate, Entry.relocateList_eq_map]
  | annotations =>
    refine ⟨⟨_, rfl⟩, fun f => ?_⟩
    change Piece.annotations (List.filterMap _ _) = _
    rw [Piece.notes_relocate]
    rfl
  | note =>
    refine ⟨⟨_, rfl⟩, fun f => ?_⟩
    change Piece.note ⟨_, textOf _, _⟩ = _
    rw [textOf_relocate]
    rfl

/-! ### Trees -/

private theorem ofForest_eq_map (trees : List Tree) :
    Piece.ofForest trees = trees.map Piece.ofTree := by
  induction trees with
  | nil => rfl
  | cons tree rest ih => simp [Piece.ofForest, ih]

/-- What the tree stands for is of the symbol's kind and does not depend on places, up to its own. -/
def Denotes (symbol : Symbol) (tree : Tree) : Prop :=
  (Piece.ofTree tree).StandsFor symbol ∧
    ∀ f, Piece.ofTree (tree.relocate f) = (Piece.ofTree tree).relocate f

private theorem forest_denotes {e : Element} {slot : List Tree} (fits : Fits Denotes e slot) :
    Fits Piece.StandsFor e (Piece.ofForest slot) ∧
      ∀ f, Piece.ofForest (Tree.relocateForest f slot) =
        (Piece.ofForest slot).map (Piece.relocate f) := by
  obtain ⟨allowed, denotes⟩ := fits
  constructor
  · rw [ofForest_eq_map]
    refine ⟨by simpa using allowed, fun piece member => ?_⟩
    obtain ⟨tree, inside, rfl⟩ := List.mem_map.mp member
    exact (denotes tree inside).1
  · intro f
    clear allowed
    induction slot with
    | nil => rfl
    | cons tree rest ih =>
      obtain ⟨here, later⟩ := List.forall_mem_cons.mp denotes
      simp [Tree.relocateForest, Piece.ofForest, here.2 f, ih later]

theorem follows_of_denotes {elements : List Element} {slots : List (List Tree)}
    (fits : List.Forall₂ (Fits Denotes) elements slots) :
    List.Forall₂ (Fits Piece.StandsFor) elements (Piece.ofSlots slots) ∧
      ∀ f, Piece.ofSlots (Tree.relocateSlots f slots) =
        (Piece.ofSlots slots).map (List.map (Piece.relocate f)) := by
  induction fits with
  | nil => exact ⟨.nil, fun _ => rfl⟩
  | @cons e slot elements slots fit _ ih =>
    obtain ⟨stands, same⟩ := forest_denotes fit
    refine ⟨.cons stands ih.1, fun f => ?_⟩
    simp [Tree.relocateSlots, Piece.ofSlots, same f, ih.2 f]

theorem Derives.denotes {symbol : Symbol} {tree : Tree} (derived : Derives symbol tree) :
    Denotes symbol tree := by
  induction derived with
  | leaf token => exact ⟨⟨token, rfl, rfl⟩, fun _ => rfl⟩
  | @node rule start alternative slots chosen count allowed derived ih =>
    have fits : List.Forall₂ (Fits Denotes) alternative slots :=
      List.forall₂_iff_zip.mpr ⟨count, fun pair => ⟨allowed _ pair, ih _ pair⟩⟩
    obtain ⟨stands, same⟩ := follows_of_denotes fits
    obtain ⟨kind, natural⟩ := agrees_of_follows ⟨alternative, chosen, stands⟩ start
    refine ⟨kind, fun f => ?_⟩
    rw [Tree.relocate, Piece.ofTree, same f]
    exact natural f

end IdlLint.Schema
