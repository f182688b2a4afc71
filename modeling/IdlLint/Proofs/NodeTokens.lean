import IdlLint.Proofs.DocumentOfTree
import IdlLint.Schema.Node

/-! The tokens that nodes are read from. The nodes of a derivation are written one after the other in its
tokens: the children of a node inside the tokens of the node, and each node from its first token on. -/
namespace IdlLint.Schema

open scoped List

/-- The rule by which a node is read. -/
def Node.rule : Node → Rule
  | .document _ => .document
  | .include _ => .inclusion
  | .cppInclude _ => .cppInclusion
  | .scope _ => .scoping
  | .constant _ => .constant
  | .typedef _ => .typedef
  | .enum _ => .enum
  | .enumItem _ => .enumItem
  | .struct d => match d.kind with
    | .struct => .struct
    | .union => .union
    | .exception => .exception
  | .field _ => .field
  | .service _ => .service
  | .function _ => .function
  | .type _ => .type
  | .value _ => .value
  | .entry _ => .entry
  | .note _ => .note

/-- The piece that consists of the node. -/
def Node.toPiece : Node → Piece
  | .document d => .document d
  | .include h => .header (.include h)
  | .cppInclude h => .header (.cppInclude h)
  | .scope h => .header (.scope h)
  | .constant d => .definition (.constant d)
  | .typedef d => .definition (.typedef d)
  | .enum d => .definition (.enum d)
  | .enumItem i => .enumItem i
  | .struct d => .definition (.struct d)
  | .field f => .field f
  | .service d => .definition (.service d)
  | .function f => .function f
  | .type t => .type t
  | .value v => .value v
  | .entry e => .entry e
  | .note a => .note a

namespace Piece

/-- The nodes that a piece consists of, without those below them. -/
def nodes : Piece → List Node
  | .token _ | .integer _ | .malformed => []
  | .type t => [.type t]
  | .value v => [.value v]
  | .entry e => [.entry e]
  | .note a => [.note a]
  | .annotations as => as.map .note
  | .enumItem i => [.enumItem i]
  | .field f => [.field f]
  | .fields fs => fs.map .field
  | .function f => [.function f]
  | .header h => [h.toNode]
  | .definition d => [d.toNode]
  | .document d => [.document d]

theorem nodes_toPiece (node : Node) : node.toPiece.nodes = [node] := by
  cases node <;> rfl

/-- The nodes in some slots, from left to right. -/
def slotNodes (slots : List (List Piece)) : List Node :=
  slots.flatMap fun slot => slot.flatMap nodes

/-! ### Nodes in slots -/

section Slots

variable {parts more : List Node} {slot : List Piece} {slots : List (List Piece)} {β : Type}
  {get : Piece → Option β} {wrap : β → Node}

private theorem sublist_skip (rest : parts <+ slotNodes slots) : parts <+ slotNodes (slot :: slots) :=
  rest.trans (List.sublist_append_right ..)

private theorem sublist_take (here : parts <+ slot.flatMap nodes) (rest : more <+ slotNodes slots) :
    parts ++ more <+ slotNodes (slot :: slots) :=
  here.append rest

private theorem sublist_here (here : parts <+ slot.flatMap nodes) :
    parts <+ slotNodes (slot :: slots) :=
  here.trans (List.sublist_append_left ..)

private theorem sublist_single (piece : Piece) : piece.nodes <+ [piece].flatMap nodes :=
  List.sublist_append_left ..

/-- What is taken from the pieces of a slot comes in their order. -/
theorem sublist_filterMap (single : ∀ piece part, get piece = some part → piece.nodes = [wrap part])
    (slot : List Piece) : (slot.filterMap get).map wrap <+ slot.flatMap nodes := by
  induction slot with
  | nil => exact .slnil
  | cons piece rest ih =>
    rw [List.filterMap_cons, List.flatMap_cons]
    cases found : get piece with
    | none => exact ih.trans (List.sublist_append_right ..)
    | some part =>
      rw [single piece part found]
      exact ih.cons_cons _

private theorem sublist_value (slot : List Piece) :
    (slot.head?.bind value?).toList.map .value <+ slot.flatMap nodes := by
  rcases slot with _ | ⟨piece, rest⟩
  · exact .slnil
  · refine List.Sublist.trans ?_ (List.sublist_append_left piece.nodes _)
    cases piece with
    | value v => exact .refl _
    | _ => exact List.nil_sublist _

private theorem sublist_type (piece : Piece) :
    piece.type?.toList.map .type <+ [piece].flatMap nodes := by
  cases piece with
  | type t => exact .refl _
  | _ => exact List.nil_sublist _

private theorem sublist_annotations (slot : List Piece) :
    (annotationsOf slot).map .note <+ slot.flatMap nodes := by
  rcases slot with _ | ⟨piece, _ | ⟨other, rest⟩⟩
  · exact .slnil
  · cases piece with
    | annotations as => exact List.sublist_append_left ..
    | _ => exact List.nil_sublist _
  · cases piece <;> exact List.nil_sublist _

private theorem sublist_fields (slot : List Piece) :
    (fieldsOf slot).map .field <+ slot.flatMap nodes := by
  rcases slot with _ | ⟨piece, _ | ⟨other, rest⟩⟩
  · exact .slnil
  · cases piece with
    | fields fs => exact List.sublist_append_left ..
    | _ => exact List.nil_sublist _
  · cases piece <;> exact List.nil_sublist _

private theorem sublist_fieldParts (slot : List Piece) :
    (slot.filterMap field?).map .field <+ slot.flatMap nodes :=
  sublist_filterMap (by rintro ⟨⟩ _ ⟨⟩; rfl) slot

end Slots

end Piece

/-! ### Rules -/

open Piece

/-- A node of the rule adds nothing to the nodes in its slots, or one node of its own, which starts
where the rule does and has its children in the slots. -/
def Builds (rule : Rule) (slots : List (List Piece)) : Prop :=
  ∀ start, (assemble rule start slots).nodes <+ slotNodes slots ∨
    ∃ node : Node, assemble rule start slots = node.toPiece ∧ node.rule = rule ∧
      node.position = start ∧ node.children <+ slotNodes slots

private theorem position_ofName (name : String) (annotations : List Note) (start : Position) :
    (TypeExpr.ofName name annotations start).position = start := by
  unfold TypeExpr.ofName
  cases BaseType.ofName? name <;> rfl

private theorem children_ofName (name : String) (annotations : List Note) (start : Position) :
    (Node.type (.ofName name annotations start)).children <+ annotations.map .note := by
  unfold TypeExpr.ofName
  cases BaseType.ofName? name with
  | some type => exact .refl _
  | none => exact List.nil_sublist _

/-- A value that is a single token starts where it should and has no parts. -/
theorem ofToken_leaf (token : Token) (start : Position) :
    (Value.ofToken token start).position = start ∧
      (Node.value (.ofToken token start)).children = [] := by
  obtain ⟨terminal, text, place⟩ := token
  unfold Value.ofToken
  dsimp only
  split
  · exact ⟨rfl, rfl⟩
  · exact ⟨rfl, rfl⟩
  · split_ifs <;> exact ⟨rfl, rfl⟩

private theorem builds_of_follows {rule : Rule} {slots : List (List Piece)} (other : rule ≠ .document)
    (follows : Follows rule slots) : Builds rule slots := by
  intro start
  cases shape_of_follows follows with
  | document => exact absurd rfl other
  | item | void | result => exact .inl (sublist_here (sublist_single _))
  | inclusion => exact .inr ⟨.include _, rfl, rfl, rfl, List.nil_sublist _⟩
  | cppInclusion => exact .inr ⟨.cppInclude _, rfl, rfl, rfl, List.nil_sublist _⟩
  | scoping => exact .inr ⟨.scope _, rfl, rfl, rfl, List.nil_sublist _⟩
  | choice kind =>
    simp only [List.mem_cons, List.not_mem_nil, or_false] at kind
    rcases kind with rfl | rfl | rfl | rfl <;> exact .inl (List.nil_sublist _)
  | marked kind =>
    rcases kind with rfl | rfl <;> exact .inl (sublist_skip (sublist_here (sublist_single _)))
  | labelled kind => rcases kind with rfl | rfl | rfl <;> exact .inl (List.nil_sublist _)
  | ended kind => rcases kind with rfl | rfl <;> exact .inl (sublist_here (sublist_single _))
  | constant _ _ _ type _ value =>
    refine .inr ⟨.constant _, rfl, rfl, rfl, sublist_skip ?_⟩
    refine sublist_take (sublist_single (.type type)) (sublist_skip (sublist_skip ?_))
    exact sublist_take (sublist_single (.value value)) (sublist_here (sublist_annotations _))
  | typedef _ _ type =>
    refine .inr ⟨.typedef _, rfl, rfl, rfl, sublist_skip ?_⟩
    refine sublist_take (sublist_single (.type type)) (sublist_skip ?_)
    exact sublist_here (sublist_annotations _)
  | enum =>
    refine .inr ⟨.enum _, rfl, rfl, rfl, sublist_skip (sublist_skip (sublist_skip ?_))⟩
    refine sublist_take (sublist_filterMap (by rintro ⟨⟩ _ ⟨⟩; rfl) _) (sublist_skip ?_)
    exact sublist_here (sublist_annotations _)
  | struct kind =>
    rcases kind with rfl | rfl
    all_goals
      refine .inr ⟨.struct _, rfl, rfl, rfl, ?_⟩
      refine sublist_skip (sublist_skip (sublist_skip (sublist_skip ?_)))
      refine sublist_take (sublist_fieldParts _) (sublist_skip ?_)
      exact sublist_here (sublist_annotations _)
  | exception =>
    refine .inr ⟨.struct _, rfl, rfl, rfl, sublist_skip (sublist_skip (sublist_skip ?_))⟩
    refine sublist_take (sublist_fieldParts _) (sublist_skip ?_)
    exact sublist_here (sublist_annotations _)
  | service =>
    refine .inr ⟨.service _, rfl, rfl, rfl, ?_⟩
    refine sublist_skip (sublist_skip (sublist_skip (sublist_skip ?_)))
    refine sublist_take (sublist_filterMap (by rintro ⟨⟩ _ ⟨⟩; rfl) _) (sublist_skip ?_)
    exact sublist_here (sublist_annotations _)
  | enumItem =>
    refine .inr ⟨.enumItem _, rfl, rfl, rfl, sublist_skip (sublist_skip ?_)⟩
    exact sublist_here (sublist_annotations _)
  | throws => exact .inl (sublist_skip (sublist_skip (sublist_here (sublist_fieldParts _))))
  | function _ _ _ _ _ _ _ result =>
    refine .inr ⟨.function _, rfl, rfl, rfl, ?_⟩
    rw [Node.children, List.append_assoc, List.append_assoc]
    refine sublist_skip (sublist_take (sublist_type result) ?_)
    refine sublist_skip (sublist_skip (sublist_take (sublist_fieldParts _) (sublist_skip ?_)))
    exact sublist_take (sublist_fields _) (sublist_here (sublist_annotations _))
  | field _ _ _ _ _ type =>
    refine .inr ⟨.field _, rfl, rfl, rfl, sublist_skip (sublist_skip ?_)⟩
    refine sublist_take (sublist_single (.type type)) (sublist_skip ?_)
    exact sublist_take (sublist_value _) (sublist_here (sublist_annotations _))
  | named =>
    refine .inr ⟨.type _, rfl, rfl, position_ofName .., (children_ofName ..).trans ?_⟩
    exact sublist_skip (sublist_here (sublist_annotations _))
  | map _ _ _ _ _ _ key value =>
    refine .inr ⟨.type _, rfl, rfl, rfl, sublist_skip (sublist_skip (sublist_skip ?_))⟩
    refine sublist_take (sublist_single (.type key)) (sublist_skip ?_)
    refine sublist_take (sublist_single (.type value)) (sublist_skip ?_)
    exact sublist_here (sublist_annotations _)
  | set noted _ _ _ _ value =>
    rcases noted with rfl | ⟨notes, rfl⟩
    all_goals
      refine .inr ⟨.type _, rfl, rfl, rfl, sublist_skip (sublist_skip (sublist_skip ?_))⟩
      refine sublist_take (sublist_single (.type value)) (sublist_skip ?_)
    · exact List.nil_sublist _
    · exact sublist_here (sublist_annotations _)
  | list noted _ _ _ _ value =>
    rcases noted with rfl | ⟨notes, rfl⟩
    all_goals
      refine .inr ⟨.type _, rfl, rfl, rfl, sublist_skip (sublist_skip ?_)⟩
      refine sublist_take (sublist_single (.type value)) (sublist_skip (sublist_skip ?_))
    · exact List.nil_sublist _
    · exact sublist_here (sublist_annotations _)
  | integerValue => exact .inr ⟨.value _, rfl, rfl, rfl, List.nil_sublist _⟩
  | tokenValue token =>
    obtain ⟨place, leaf⟩ := ofToken_leaf token start
    exact .inr ⟨.value _, rfl, rfl, place, leaf ▸ List.nil_sublist _⟩
  | listValue | mapValue =>
    refine .inr ⟨.value _, rfl, rfl, rfl, sublist_skip ?_⟩
    exact sublist_here (sublist_filterMap (by rintro ⟨⟩ _ ⟨⟩; rfl) _)
  | entry _ _ key value =>
    refine .inr ⟨.entry _, rfl, rfl, rfl, ?_⟩
    refine sublist_take (sublist_single (.value key)) (sublist_skip ?_)
    exact sublist_here (sublist_single (.value value))
  | integer => exact .inl (List.nil_sublist _)
  | annotations =>
    refine .inl (sublist_skip (sublist_here ?_))
    exact sublist_filterMap (by rintro ⟨⟩ _ ⟨⟩; rfl) _
  | note => exact .inr ⟨.note _, rfl, rfl, rfl, List.nil_sublist _⟩

/-! ### Derivations -/

/-- The tokens are derived from the rule of the node and stand for the node. -/
def Node.ReadFrom (node : Node) (tokens : List Token) : Prop :=
  ∃ tree, Derives (.rule node.rule) tree ∧ tree.tokens = tokens ∧ Piece.ofTree tree = node.toPiece

/-- The nodes are read from the tokens, each from tokens of its own that come after those of the nodes
before it. A node stands where its first token does, and its children are read from its tokens. -/
inductive Spans : List Token → List Node → Prop where
  | done (tokens : List Token) : Spans tokens []
  | skip (token : Token) {tokens : List Token} {nodes : List Node} (rest : Spans tokens nodes) :
      Spans (token :: tokens) nodes
  | node {first : Token} {inside after : List Token} {node : Node} {nodes : List Node}
      (read : node.ReadFrom (first :: inside)) (place : node.position = first.position)
      (below : Spans (first :: inside) node.children) (rest : Spans after nodes) :
      Spans (first :: inside ++ after) (node :: nodes)

namespace Spans

variable {tokens more : List Token} {nodes others : List Node}

private theorem prepend (spans : Spans tokens nodes) (front : List Token) :
    Spans (front ++ tokens) nodes := by
  induction front with
  | nil => exact spans
  | cons token front ih => exact .skip token ih

private theorem append (spans : Spans tokens nodes) (later : Spans more others) :
    Spans (tokens ++ more) (nodes ++ others) := by
  induction spans with
  | done tokens => exact later.prepend tokens
  | skip token _ ih => exact .skip token ih
  | node read place below _ _ ih =>
    rw [List.append_assoc]
    exact .node read place below ih

private theorem sublist (spans : Spans tokens nodes) (kept : others <+ nodes) :
    Spans tokens others := by
  induction spans generalizing others with
  | done tokens =>
    obtain rfl := List.sublist_nil.mp kept
    exact .done tokens
  | skip token _ ih => exact .skip token (ih kept)
  | node read place below _ _ ih =>
    cases kept with
    | cons _ kept => exact (ih kept).prepend _
    | cons_cons _ kept => exact .node read place below (ih kept)

end Spans

private theorem spans_forest {trees : List Tree}
    (each : ∀ tree ∈ trees, Spans tree.tokens (Piece.ofTree tree).nodes) :
    Spans (Tree.forestTokens trees) ((Piece.ofForest trees).flatMap nodes) := by
  induction trees with
  | nil => exact .done _
  | cons tree rest ih =>
    obtain ⟨here, later⟩ := List.forall_mem_cons.mp each
    exact here.append (ih later)

private theorem spans_slots {elements : List Element} {slots : List (List Tree)}
    (fits : List.Forall₂ (Fits fun _ tree => Spans tree.tokens (Piece.ofTree tree).nodes)
      elements slots) :
    Spans (Tree.slotTokens slots) (slotNodes (Piece.ofSlots slots)) := by
  induction fits with
  | nil => exact .done _
  | cons fit _ ih => exact (spans_forest fit.2).append ih

theorem Derives.follows {rule : Rule} {start : Position} {slots : List (List Tree)}
    (derived : Derives (.rule rule) (.node rule start slots)) :
    Follows rule (Piece.ofSlots slots) := by
  obtain ⟨_, _, same, alternative, chosen, fits⟩ := derives_rule_iff.mp derived
  cases same
  have denotes : List.Forall₂ (Fits Denotes) alternative slots :=
    fits.imp fun _ _ fit => ⟨fit.1, fun tree member => Derives.denotes (fit.2 tree member)⟩
  exact ⟨alternative, chosen, (follows_of_denotes denotes).1⟩

/-- One node more around what is read from the slots. -/
theorem Spans.assemble {rule : Rule} (other : rule ≠ .document) {slots : List (List Tree)}
    (derived : Derives (.rule rule) (.node rule (rule.startOf (Tree.slotTokens slots)) slots))
    (parts : Spans (Tree.slotTokens slots) (slotNodes (Piece.ofSlots slots))) :
    Spans (Tree.slotTokens slots)
      (Schema.assemble rule (rule.startOf (Tree.slotTokens slots)) (Piece.ofSlots slots)).nodes := by
  obtain ⟨first, inside, tokens, -⟩ := derived.startsIn fun same => other (Symbol.rule.inj same)
  rw [Tree.tokens] at tokens
  rcases builds_of_follows other (Derives.follows derived) (rule.startOf (Tree.slotTokens slots)) with
    passed | ⟨node, same, rfl, place, children⟩
  · exact parts.sublist passed
  · have below := parts.sublist children
    have read : node.ReadFrom (first :: inside) := ⟨_, derived, tokens, same⟩
    rw [tokens, Rule.startOf_cons other] at place
    rw [tokens] at below
    rw [same, nodes_toPiece, tokens, ← List.append_nil (first :: inside)]
    exact .node read place below (.done [])

/-- The nodes of a derivation are read from its tokens. -/
theorem Derives.spans {symbol : Symbol} {tree : Tree} (derived : Derives symbol tree)
    (placed : Placed tree) (other : symbol ≠ .rule .document) :
    Spans tree.tokens (Piece.ofTree tree).nodes := by
  induction derived with
  | leaf token => exact .done _
  | @node rule start alternative slots chosen count allowed derived ih =>
    cases placed with
    | node below =>
      have fits : List.Forall₂ (Fits fun _ tree => Spans tree.tokens (Piece.ofTree tree).nodes)
          alternative slots := by
        refine List.forall₂_iff_zip.mpr ⟨count, fun {e slot} pair => ⟨allowed _ pair, ?_⟩⟩
        intro tree member
        obtain ⟨listed, present⟩ := List.of_mem_zip pair
        exact ih _ pair tree member (below slot present tree member)
          (rule.symbol_ne_document alternative chosen e listed)
      exact (spans_slots fits).assemble (fun same => other (congrArg _ same))
        (.node chosen count allowed derived)

/-- The headers and the definitions of a document are read from its tokens. They need not be apart, so
each of both kinds is in order only among its own. -/
theorem spans_document {tree : Tree} {d : Document} (derived : Derives (.rule .document) tree)
    (placed : Placed tree) (same : Piece.ofTree tree = .document d) :
    ∃ items, Spans tree.tokens items ∧ d.headers.map Header.toNode <+ items ∧
      d.definitions.map Definition.toNode <+ items := by
  obtain ⟨start, slots, rfl, alternative, chosen, fits⟩ := derives_rule_iff.mp derived
  obtain rfl : alternative = [.many .item] := List.mem_singleton.mp chosen
  cases placed with
  | node below =>
    obtain _ | ⟨fit, _ | _⟩ := fits
    rename_i items
    have each : ∀ tree ∈ items, Spans tree.tokens (Piece.ofTree tree).nodes := by
      intro tree member
      have inside := below items (List.mem_cons_self ..) tree member
      exact Derives.spans (fit.2 tree member) inside (by decide)
    obtain rfl := Piece.document.inj same
    refine ⟨_, spans_slots (.cons ⟨fit.1, each⟩ .nil), ?_, ?_⟩
    all_goals exact sublist_here (sublist_filterMap (by rintro ⟨⟩ _ ⟨⟩; rfl) _)

end IdlLint.Schema
