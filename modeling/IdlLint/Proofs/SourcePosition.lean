import IdlLint.Proofs.NodeTokens
import IdlLint.Proofs.ParseDerivation
import IdlLint.Proofs.Preorder
import IdlLint.Proofs.TokenOrder

/-! Where the nodes of a document stand in the text that it is read from. Every node stands at the first
character of its first token, and the order of the nodes is that of the text. -/
namespace IdlLint.Schema

namespace Node

/-- The nodes at and below a node, in the order of the walk. -/
def within (node : Node) : List Node :=
  (walk node).map Visit.node

private theorem within_eq (node : Node) : node.within = node :: node.children.flatMap within := by
  have strip : Visit.node ∘ Visit.under node = Visit.node := rfl
  rw [within, walk_recursive, preorder_eq, above, List.map_cons, List.map_map, strip,
    List.map_flatMap]
  refine congrArg (node :: ·) (List.flatMap_congr fun child _ => ?_)
  rw [within, walk_recursive]

theorem mem_within_self (node : Node) : node ∈ node.within := by
  rw [within_eq]
  exact List.mem_cons_self ..

theorem mem_within_iff {node other : Node} :
    other ∈ node.within ↔ other = node ∨ other ∈ node.children.flatMap within := by
  rw [within_eq, List.mem_cons]

end Node

/-! ### Nodes in order -/

namespace Spans

variable {tokens : List Token} {nodes : List Node}

/-- Every node, at whatever depth, has tokens of its own among those that it is read from. -/
theorem exists_tokens (spans : Spans tokens nodes) :
    ∀ node ∈ nodes.flatMap Node.within, ∃ before first inside after,
      tokens = before ++ first :: (inside ++ after) ∧ node.ReadFrom (first :: inside) ∧
        node.position = first.position ∧ Spans (first :: inside) node.children := by
  induction spans with
  | done tokens => exact fun node member => absurd member List.not_mem_nil
  | skip token _ ih =>
    intro node member
    obtain ⟨before, first, inside, after, rfl, found⟩ := ih node member
    exact ⟨token :: before, first, inside, after, rfl, found⟩
  | @node first inside after top nodes read place below _ within later =>
    intro node member
    rw [List.flatMap_cons, List.mem_append, Node.mem_within_iff] at member
    rcases member with (rfl | deeper) | other
    · exact ⟨[], first, inside, after, rfl, read, place, below⟩
    · obtain ⟨before, start, inner, behind, same, found⟩ := within node deeper
      refine ⟨before, start, inner, behind ++ after, ?_, found⟩
      rw [same]
      simp only [List.append_assoc, List.cons_append]
    · obtain ⟨before, start, inner, behind, rfl, found⟩ := later node other
      refine ⟨first :: inside ++ before, start, inner, behind, ?_, found⟩
      simp only [List.append_assoc]

private theorem exists_position (spans : Spans tokens nodes) :
    ∀ node ∈ nodes.flatMap Node.within, ∃ token ∈ tokens, node.position = token.position := by
  intro node member
  obtain ⟨before, first, inside, after, rfl, -, place, -⟩ := spans.exists_tokens node member
  exact ⟨first, by simp, place⟩

/-- What is at or below a node stands at one of its tokens. -/
theorem exists_position_within {first : Token} {inside : List Token} {node : Node}
    (place : node.position = first.position) (below : Spans (first :: inside) node.children) :
    ∀ inner ∈ node.within, ∃ token ∈ first :: inside, inner.position = token.position := by
  intro inner member
  rcases Node.mem_within_iff.mp member with rfl | deeper
  · exact ⟨first, List.mem_cons_self .., place⟩
  · exact below.exists_position inner deeper

/-- All that is at or below a node comes before all that is at or below the next ones. -/
theorem pairwise_within (spans : Spans tokens nodes)
    (sorted : tokens.Pairwise fun a b => a.position < b.position) :
    nodes.Pairwise fun a b => ∀ x ∈ a.within, ∀ y ∈ b.within, x.position < y.position := by
  induction spans with
  | done tokens => exact .nil
  | skip token _ ih => exact ih (List.pairwise_cons.mp sorted).2
  | node read place below rest _ later =>
    obtain ⟨-, sortedAfter, across⟩ := List.pairwise_append.mp sorted
    refine .cons ?_ (later sortedAfter)
    intro other member x insideX y insideY
    obtain ⟨one, here, left⟩ := exists_position_within place below x insideX
    obtain ⟨two, behind, right⟩ :=
      rest.exists_position y (List.mem_flatMap.mpr ⟨other, member, insideY⟩)
    rw [left, right]
    exact across one here two behind

private theorem pairwise_position (spans : Spans tokens nodes)
    (sorted : tokens.Pairwise fun a b => a.position < b.position) :
    nodes.Pairwise fun a b => a.position < b.position :=
  (spans.pairwise_within sorted).imp fun {a b} apart =>
    apart a a.mem_within_self b b.mem_within_self

/-- A node comes before all that is below it. -/
theorem le_within {first : Token} {inside : List Token} {node : Node}
    (place : node.position = first.position) (below : Spans (first :: inside) node.children)
    (sorted : (first :: inside).Pairwise fun a b => a.position < b.position) :
    ∀ inner ∈ node.within, node.position ≤ inner.position := by
  intro inner member
  obtain ⟨token, present, same⟩ := exists_position_within place below inner member
  rw [place, same]
  rcases List.mem_cons.mp present with rfl | later
  · exact le_refl _
  · exact ((List.pairwise_cons.mp sorted).1 token later).le

/-- The walk meets the nodes in the order of the text. -/
theorem pairwise_walk (spans : Spans tokens nodes)
    (sorted : tokens.Pairwise fun a b => a.position < b.position) :
    ∀ node ∈ nodes, node.within.Pairwise fun a b => a.position ≤ b.position := by
  induction spans with
  | done tokens => exact fun node member => absurd member List.not_mem_nil
  | skip token _ ih => exact ih (List.pairwise_cons.mp sorted).2
  | @node first inside after top nodes read place below rest inner later =>
    obtain ⟨sortedInside, sortedAfter, -⟩ := List.pairwise_append.mp sorted
    refine List.forall_mem_cons.mpr ⟨?_, later sortedAfter⟩
    rw [Node.within_eq, List.pairwise_cons, List.pairwise_flatMap]
    refine ⟨fun node deeper => ?_, inner sortedInside, ?_⟩
    · exact le_within place below sortedInside node (Node.mem_within_iff.mpr (.inr deeper))
    · refine (below.pairwise_within sortedInside).imp fun apart x insideX y insideY => ?_
      exact (apart x insideX y insideY).le

/-- At every depth a node comes before all that is below it, and its children come in order. -/
theorem ordered (spans : Spans tokens nodes)
    (sorted : tokens.Pairwise fun a b => a.position < b.position) :
    ∀ node ∈ nodes.flatMap Node.within, (∀ inner ∈ node.within, node.position ≤ inner.position) ∧
      node.children.Pairwise fun a b => a.position < b.position := by
  intro node member
  obtain ⟨before, first, inside, after, rfl, -, place, below⟩ := spans.exists_tokens node member
  have own : (first :: inside).Sublist (before ++ first :: (inside ++ after)) :=
    ((List.sublist_append_left inside after).cons_cons first).trans (List.sublist_append_right ..)
  have sortedInside := sorted.sublist own
  exact ⟨le_within place below sortedInside, below.pairwise_position sortedInside⟩

end Spans

/-! ### Documents -/

/-- The places in a document are those of the text that it is read from. -/
structure PlacedBy (text : List Char) (d : Document) : Prop where
  /-- Every node but the document is read from tokens of its own and stands at the first character of
  the first of them, after the text that the tokens before it take up. -/
  starts : ∃ tree, Derives (.rule .document) tree ∧ Piece.ofTree tree = .document d ∧
    Layout .origin text tree.tokens ∧
    ∀ visit ∈ walk (.document d), visit.node.kind ≠ .document →
      ∃ before first inside after front back,
        tree.tokens = before ++ first :: (inside ++ after) ∧
        visit.node.ReadFrom (first :: inside) ∧
        text = front ++ first.text ++ back ∧ Layout .origin front before ∧
        visit.node.position = .behind front
  /-- Headers stand one after the other, and so do definitions. -/
  headers : d.headers.Pairwise fun a b => a.toNode.position < b.toNode.position
  definitions : d.definitions.Pairwise fun a b => a.toNode.position < b.toNode.position
  /-- No node stands before its parent. -/
  parents : ∀ visit ∈ walk (.document d), ∀ child ∈ visit.node.children,
    visit.node.position ≤ child.position
  /-- Children come in order. In a document headers and definitions may be mixed, so that there only
  those of one kind do. -/
  siblings : ∀ visit ∈ walk (.document d), visit.node.kind ≠ .document →
    visit.node.children.Pairwise fun a b => a.position < b.position
  /-- All that is below a header or definition comes before those that start later. -/
  apart : ∀ a ∈ (Node.document d).children, ∀ b ∈ (Node.document d).children,
    a.position < b.position → ∀ visit ∈ walk a, visit.node.position < b.position
  /-- Within a header or definition the walk follows the text. -/
  sorted : ∀ item ∈ (Node.document d).children,
    (walk item).Pairwise fun a b => a.node.position ≤ b.node.position

section

variable {d : Document} {items : List Node}

theorem mem_items (headers : (d.headers.map Header.toNode).Sublist items)
    (definitions : (d.definitions.map Definition.toNode).Sublist items) :
    ∀ child ∈ (Node.document d).children, child ∈ items := by
  intro child member
  rcases List.mem_append.mp member with header | definition
  · exact headers.mem header
  · exact definitions.mem definition

theorem mem_walk_document (listed : ∀ child ∈ (Node.document d).children, child ∈ items) :
    ∀ visit ∈ walk (.document d),
      visit.node = .document d ∨ visit.node ∈ items.flatMap Node.within := by
  intro visit member
  have inside : visit.node ∈ (Node.document d).within := List.mem_map_of_mem member
  rcases Node.mem_within_iff.mp inside with top | deeper
  · exact .inl top
  · obtain ⟨child, present, below⟩ := List.mem_flatMap.mp deeper
    exact .inr (List.mem_flatMap.mpr ⟨child, listed child present, below⟩)

/-- Of two nodes in a row the one that starts later comes after all that is below the other. -/
theorem before_of_lt (apart : items.Pairwise fun a b =>
      ∀ x ∈ a.within, ∀ y ∈ b.within, x.position < y.position)
    {a b : Node} (listed : a ∈ items) (present : b ∈ items) (less : a.position < b.position) :
    ∀ x ∈ a.within, x.position < b.position := by
  induction apart with
  | nil => exact absurd listed List.not_mem_nil
  | @cons top rest later _ ih =>
    rcases List.mem_cons.mp listed with rfl | inRest
    · rcases List.mem_cons.mp present with rfl | after
      · exact absurd less (lt_irrefl _)
      · exact fun x inside => later b after x inside b b.mem_within_self
    · rcases List.mem_cons.mp present with rfl | after
      · have more := later a inRest b b.mem_within_self a a.mem_within_self
        exact absurd less more.asymm
      · exact ih inRest after

end

/-- A text that is read has a derivation with its tokens in their places. -/
theorem exists_derivation {text : List Char} {d : Document} (result : parse text = .ok d) :
    ∃ tree, Derives (.rule .document) tree ∧ Placed tree ∧ Layout .origin text tree.tokens ∧
      Piece.ofTree tree = .document d := by
  obtain ⟨tree, read, -, rfl⟩ := parse_eq_ok_iff.mp result
  obtain ⟨⟨derived, placed⟩, layout⟩ := ofText_sound read
  exact ⟨tree, derived, placed, layout, document_ofTree derived⟩

/-- A text that is read places all nodes of its document. -/
theorem parse_placedBy {text : List Char} {d : Document} (result : parse text = .ok d) :
    PlacedBy text d := by
  obtain ⟨tree, derived, placed, layout, same⟩ := exists_derivation result
  obtain ⟨items, spans, headers, definitions⟩ := spans_document derived placed same
  have sorted := layout.pairwise_position
  have listed := mem_items headers definitions
  have below := mem_walk_document listed
  have inOrder := spans.pairwise_position sorted
  refine ⟨⟨tree, derived, same, layout, ?_⟩, ?_, ?_, ?_, ?_, ?_, ?_⟩
  · intro visit member other
    rcases below visit member with top | deeper
    · rw [top] at other
      exact absurd rfl other
    · obtain ⟨before, first, inside, after, split, read, place, -⟩ :=
        spans.exists_tokens visit.node deeper
      rw [split] at layout
      obtain ⟨front, back, text, laid, start⟩ := layout.exists_front
      refine ⟨before, first, inside, after, front, back, split, read, text, laid, ?_⟩
      rw [place, start, Position.origin_after]
  · have kept := inOrder.sublist headers
    rwa [List.pairwise_map] at kept
  · have kept := inOrder.sublist definitions
    rwa [List.pairwise_map] at kept
  · intro visit member child present
    rcases below visit member with top | deeper
    · rw [top] at present ⊢
      have inItems : child ∈ items.flatMap Node.within :=
        List.mem_flatMap.mpr ⟨child, listed child present, child.mem_within_self⟩
      obtain ⟨token, known, place⟩ := spans.exists_position child inItems
      rw [place]
      exact layout.le_position token known
    · refine (spans.ordered sorted visit.node deeper).1 child (Node.mem_within_iff.mpr (.inr ?_))
      exact List.mem_flatMap.mpr ⟨child, present, child.mem_within_self⟩
  · intro visit member other
    rcases below visit member with top | deeper
    · rw [top] at other
      exact absurd rfl other
    · exact (spans.ordered sorted visit.node deeper).2
  · intro a first b second less visit member
    exact before_of_lt (spans.pairwise_within sorted) (listed a first) (listed b second) less
      visit.node (List.mem_map_of_mem member)
  · intro item member
    have ascending := spans.pairwise_walk sorted item (listed item member)
    rwa [Node.within, List.pairwise_map] at ascending

/-- A definition, a header with a comment in front of it, and a definition again. -/
def mixedItems : List Char :=
  "const list<i32> a = [1,\n  2] // two\n include \"b\"\nenum E \x7bA\x7d".toList

/-- The kinds and places of the nodes in the order of the walk. -/
def mixedPlaces : List (NodeKind × Position) :=
  [(.document, ⟨1, 1⟩), (.include, ⟨3, 2⟩), (.constant, ⟨1, 1⟩), (.listType, ⟨1, 7⟩),
    (.baseType, ⟨1, 12⟩), (.list, ⟨1, 21⟩), (.integer, ⟨1, 22⟩), (.integer, ⟨2, 3⟩),
    (.enum, ⟨4, 1⟩), (.enumItem, ⟨4, 9⟩)]

theorem parse_placedBy_mixedItems :
    ∃ d, parse mixedItems = .ok d ∧ PlacedBy mixedItems d ∧
      (walk (.document d)).map (fun visit => (visit.node.kind, visit.node.position)) =
        mixedPlaces := by
  have read : ((parse mixedItems).toOption.map fun d => (walk (.document d)).map fun visit =>
      (visit.node.kind, visit.node.position)) = some mixedPlaces := by decide +kernel
  cases result : parse mixedItems with
  | error failure =>
    rw [result] at read
    cases read
  | ok d =>
    rw [result] at read
    exact ⟨d, rfl, parse_placedBy result, Option.some.inj read⟩

end IdlLint.Schema
