import IdlLint.Proofs.LongestLexeme
import IdlLint.Proofs.SourcePosition

/-! The words of a document. Names stand in a document as they are written, so what holds of all tokens
of a text holds of the names that are read from it; in particular no name goes over the end of a line.
Only what is decoded from string literals can. -/
namespace IdlLint.Schema

/-- The names in a node that are written there as they are. -/
def Node.words : Node → List String
  | .scope n => [n.language]
  | .constant n => [n.name]
  | .typedef n => [n.name]
  | .enum n => [n.name]
  | .enumItem n => [n.name]
  | .struct n => [n.name]
  | .field n => [n.name]
  | .service n => [n.name]
  | .function n => [n.name]
  | .value (.reference name _) => [name]
  | _ => []

variable {p : List Char → Prop}

namespace Piece

/-- What is taken as it is written has a property: the text of a token, and the words of nodes. -/
structure Worded (p : List Char → Prop) (piece : Piece) : Prop where
  token : ∀ token, piece = .token token → p token.text
  nodes : ∀ node ∈ piece.nodes, ∀ word ∈ node.words, p word.toList

/-- A piece that is one node. -/
theorem worded_node (node : Node) {piece : Piece} (same : piece = node.toPiece)
    (words : ∀ word ∈ node.words, p word.toList) : piece.Worded p := by
  subst same
  refine ⟨?_, ?_⟩
  · intro token other
    cases node <;> cases other
  · intro inner member
    rw [nodes_toPiece, List.mem_singleton] at member
    rwa [member]

private theorem Worded.name {token : Token} (worded : (Piece.token token).Worded p) :
    ∀ word ∈ [String.ofList token.text], p word.toList := by
  intro word member
  rw [List.mem_singleton.mp member, String.toList_ofList]
  exact worded.token token rfl

private theorem words_ofToken {token : Token}
    (worded : (Piece.token token).Worded p) (start : Position) :
    ∀ word ∈ (Node.value (.ofToken token start)).words, p word.toList := by
  obtain ⟨terminal, text, place⟩ := token
  unfold Value.ofToken
  dsimp only
  split
  · exact List.forall_mem_nil _
  · exact List.forall_mem_nil _
  · split_ifs
    · exact List.forall_mem_nil _
    · exact List.forall_mem_nil _
    · exact worded.name

end Piece

open Piece

/-- If what stands in the slots of a rule is written so, then so is what the rule makes of it. -/
theorem worded_assemble {rule : Rule} {slots : List (List Piece)} (follows : Follows rule slots)
    (parts : ∀ slot ∈ slots, ∀ piece ∈ slot, piece.Worded p) (start : Position) :
    (assemble rule start slots).Worded p := by
  have alone : ∀ piece, [piece] ∈ slots → piece.Worded p :=
    fun piece present => parts _ present piece (List.mem_singleton.mpr rfl)
  have named : ∀ token, [.token token] ∈ slots → ∀ word ∈ [String.ofList token.text], p word.toList :=
    fun token present => (alone _ present).name
  cases shape_of_follows follows with
  | document => exact worded_node (.document _) rfl (List.forall_mem_nil _)
  | @item piece => exact alone piece (by simp)
  | inclusion => exact worded_node (.include _) rfl (List.forall_mem_nil _)
  | cppInclusion => exact worded_node (.cppInclude _) rfl (List.forall_mem_nil _)
  | scoping _ language => exact worded_node (.scope _) rfl (named language (by simp))
  | choice kind token =>
    simp only [List.mem_cons, List.not_mem_nil, or_false] at kind
    rcases kind with rfl | rfl | rfl | rfl <;> exact alone (.token token) (by simp)
  | @marked _ piece kind => rcases kind with rfl | rfl <;> exact alone piece (by simp)
  | labelled kind _ token =>
    rcases kind with rfl | rfl | rfl <;> exact alone (.token token) (by simp)
  | @ended _ piece kind => rcases kind with rfl | rfl <;> exact alone piece (by simp)
  | constant _ _ _ _ name => exact worded_node (.constant _) rfl (named name (by simp))
  | typedef _ _ _ name => exact worded_node (.typedef _) rfl (named name (by simp))
  | enum _ _ _ _ _ name => exact worded_node (.enum _) rfl (named name (by simp))
  | struct kind _ _ _ _ _ _ name =>
    rcases kind with rfl | rfl <;> exact worded_node (.struct _) rfl (named name (by simp))
  | exception _ _ _ _ _ name => exact worded_node (.struct _) rfl (named name (by simp))
  | service _ _ _ _ _ _ name => exact worded_node (.service _) rfl (named name (by simp))
  | enumItem _ _ _ name => exact worded_node (.enumItem _) rfl (named name (by simp))
  | void token => exact alone (.token token) (by simp)
  | result type => exact alone (.type type) (by simp)
  | throws _ _ fields =>
    refine ⟨by rintro token ⟨⟩, fun node member => ?_⟩
    -- Every field comes from a piece of the slot that is this field alone.
    obtain ⟨field, listed, rfl⟩ := List.mem_map.mp member
    obtain ⟨piece, present, found⟩ := List.mem_filterMap.mp listed
    cases piece <;> cases found
    exact (parts fields (by simp) _ present).nodes _ (List.mem_singleton.mpr rfl)
  | function _ _ _ _ _ _ _ _ name => exact worded_node (.function _) rfl (named name (by simp))
  | field _ _ _ _ _ _ name => exact worded_node (.field _) rfl (named name (by simp))
  | named | map => exact worded_node (.type _) rfl (List.forall_mem_nil _)
  | set noted | list noted =>
    rcases noted with rfl | ⟨notes, rfl⟩ <;>
      exact worded_node (.type _) rfl (List.forall_mem_nil _)
  | integerValue | listValue | mapValue => exact worded_node (.value _) rfl (List.forall_mem_nil _)
  | tokenValue token =>
    exact worded_node (.value _) rfl (words_ofToken (alone (.token token) (by simp)) start)
  | entry => exact worded_node (.entry _) rfl (List.forall_mem_nil _)
  | integer => exact ⟨by rintro token ⟨⟩, List.forall_mem_nil _⟩
  | annotations =>
    refine ⟨by rintro token ⟨⟩, fun node member => ?_⟩
    obtain ⟨note, -, rfl⟩ := List.mem_map.mp member
    exact List.forall_mem_nil _
  | note => exact worded_node (.note _) rfl (List.forall_mem_nil _)

private theorem worded_forest {trees : List Tree}
    (each : ∀ tree ∈ trees, (∀ token ∈ tree.tokens, p token.text) → (Piece.ofTree tree).Worded p)
    (tokens : ∀ token ∈ Tree.forestTokens trees, p token.text) :
    ∀ piece ∈ Piece.ofForest trees, piece.Worded p := by
  induction trees with
  | nil => exact List.forall_mem_nil _
  | cons tree rest ih =>
    rw [Tree.forestTokens, List.forall_mem_append] at tokens
    rw [List.forall_mem_cons] at each
    exact List.forall_mem_cons.mpr ⟨each.1 tokens.1, ih each.2 tokens.2⟩

private theorem worded_slots {elements : List Element} {slots : List (List Tree)}
    (fits : List.Forall₂ (Fits fun _ tree => (∀ token ∈ tree.tokens, p token.text) →
      (Piece.ofTree tree).Worded p) elements slots)
    (tokens : ∀ token ∈ Tree.slotTokens slots, p token.text) :
    ∀ slot ∈ Piece.ofSlots slots, ∀ piece ∈ slot, piece.Worded p := by
  induction fits with
  | nil => exact List.forall_mem_nil _
  | cons fit _ ih =>
    rw [Tree.slotTokens, List.forall_mem_append] at tokens
    exact List.forall_mem_cons.mpr ⟨worded_forest fit.2 tokens.1, ih tokens.2⟩

/-- What holds of all tokens of a derivation holds of its words. -/
theorem Derives.worded {symbol : Symbol} {tree : Tree} (derived : Derives symbol tree)
    (tokens : ∀ token ∈ tree.tokens, p token.text) : (Piece.ofTree tree).Worded p := by
  induction derived with
  | leaf token =>
    refine ⟨?_, List.forall_mem_nil _⟩
    rintro _ ⟨⟩
    exact tokens token (List.mem_singleton.mpr rfl)
  | @node rule start alternative slots chosen count allowed derived ih =>
    have whole : Derives (.rule rule) (.node rule start slots) := .node chosen count allowed derived
    have fits : List.Forall₂ (Fits fun _ tree => (∀ token ∈ tree.tokens, p token.text) →
        (Piece.ofTree tree).Worded p) alternative slots :=
      List.forall₂_iff_zip.mpr ⟨count, fun pair => ⟨allowed _ pair, ih _ pair⟩⟩
    exact worded_assemble (Derives.follows whole) (worded_slots fits tokens) start

/-! ### Lines -/

private theorem notMem_of_quoted {mark : Char} {body : List Char} (quoted : IsQuoted mark body) :
    '\n' ∉ body := by
  induction quoted with
  | empty => exact List.not_mem_nil
  | plain _ _ other _ ih => exact List.not_mem_cons_of_ne_of_not_mem (Ne.symm other) ih
  | escape other _ ih =>
    refine List.not_mem_cons_of_ne_of_not_mem (by decide) ?_
    exact List.not_mem_cons_of_ne_of_not_mem (Ne.symm other) ih

/-- No token goes over the end of a line. -/
theorem notMem_of_spells {terminal : Terminal} {lexeme : List Char}
    (spells : Spells terminal lexeme) : '\n' ∉ lexeme := by
  by_cases quoted : terminal = .string
  · subst quoted
    cases spells with
    | @string quote body mark inside =>
      have inner := notMem_of_quoted inside
      rcases mark with rfl | rfl <;> simp [inner]
  · intro member
    exact Lexeme.notMem_separators_of_spells spells quoted _ member (by decide)

private theorem notMem_of_layout {start : Position} {text : List Char} {tokens : List Token}
    (layout : Layout start text tokens) : ∀ token ∈ tokens, '\n' ∉ token.text := by
  induction layout with
  | done => exact List.forall_mem_nil _
  | space _ _ ih | comment _ _ ih => exact ih
  | token spells _ ih => exact List.forall_mem_cons.mpr ⟨notMem_of_spells spells, ih⟩

/-- The words of a document that is read from a text are written on one line each. -/
theorem words_of_parse {text : List Char} {d : Document} (parsed : parse text = .ok d) :
    ∀ visit ∈ walk (.document d), ∀ word ∈ visit.node.words, '\n' ∉ word.toList := by
  obtain ⟨tree, derived, placed, layout, same⟩ := exists_derivation parsed
  obtain ⟨items, spans, headers, definitions⟩ := spans_document derived placed same
  have short := notMem_of_layout layout
  intro visit member
  rcases mem_walk_document (mem_items headers definitions) visit member with top | deeper
  · rw [top]
    exact List.forall_mem_nil _
  · obtain ⟨before, first, inside, after, split, ⟨part, read, tokens, stands⟩, -⟩ :=
      spans.exists_tokens visit.node deeper
    have worded : (Piece.ofTree part).Worded ('\n' ∉ ·) := by
      refine Derives.worded read fun token known => short token ?_
      rw [tokens] at known
      rw [split, ← List.cons_append]
      exact List.mem_append_right _ (List.mem_append_left _ known)
    refine worded.nodes visit.node ?_
    rw [stands, nodes_toPiece]
    exact List.mem_singleton.mpr rfl

end IdlLint.Schema
