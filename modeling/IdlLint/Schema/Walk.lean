import IdlLint.Schema.Node

/-! The walk through a document: every node before its children, children from left to right, each
with its ancestors from the outermost to the innermost. -/
namespace IdlLint.Schema

/-- The number of nodes of a type. -/
def TypeExpr.size : TypeExpr → Nat
  | .base _ as _ => 1 + as.length
  | .map k v as _ => 1 + k.size + v.size + as.length
  | .list v as _ => 1 + v.size + as.length
  | .set v as _ => 1 + v.size + as.length
  | .reference _ _ => 1

mutual

/-- The number of nodes of a value. -/
def Value.size : Value → Nat
  | .list items _ => 1 + Value.sizes items
  | .map entries _ => 1 + Entry.sizes entries
  | .integer _ _ | .double _ _ | .string _ _ | .boolean _ _ | .reference _ _ => 1

def Value.sizes : List Value → Nat
  | [] => 0
  | v :: rest => v.size + Value.sizes rest

def Entry.size : Entry → Nat
  | .mk k v _ => 1 + k.size + v.size

def Entry.sizes : List Entry → Nat
  | [] => 0
  | e :: rest => e.size + Entry.sizes rest

end

namespace Node

private def total {α : Type} (size : α → Nat) (items : List α) : Nat :=
  items.foldr (fun item n => size item + n) 0

def fieldSize (f : Field) : Nat :=
  1 + f.type.size + total Value.size f.default.toList + f.annotations.length

def functionSize (f : Function) : Nat :=
  1 + total TypeExpr.size f.result.toList + total fieldSize f.parameters +
    total fieldSize f.exceptions + f.annotations.length

def definitionSize : Definition → Nat
  | .constant d => 1 + d.type.size + d.value.size + d.annotations.length
  | .typedef d => 1 + d.type.size + d.annotations.length
  | .enum d => 1 + total (fun item => 1 + item.annotations.length) d.items + d.annotations.length
  | .struct d => 1 + total fieldSize d.fields + d.annotations.length
  | .service d => 1 + total functionSize d.functions + d.annotations.length

/-- The number of nodes at and below a node. -/
def size : Node → Nat
  | .document n => 1 + n.headers.length + total definitionSize n.definitions
  | .constant n => definitionSize (.constant n)
  | .typedef n => definitionSize (.typedef n)
  | .enum n => definitionSize (.enum n)
  | .enumItem n => 1 + n.annotations.length
  | .struct n => definitionSize (.struct n)
  | .field n => fieldSize n
  | .service n => definitionSize (.service n)
  | .function n => functionSize n
  | .type t => t.size
  | .value v => v.size
  | .entry e => e.size
  | .include _ | .cppInclude _ | .scope _ | .note _ => 1

end Node

/-- A node with its ancestors, outermost first. -/
structure Visit where
  node : Node
  parents : List Node
deriving Inhabited

namespace Visit

/-- The visits of the children. -/
def descend (visit : Visit) : List Visit :=
  visit.node.children.map fun child => ⟨child, visit.parents ++ [visit.node]⟩

/-- Visits what is pending, at most `fuel` nodes. -/
def drain : Nat → List Visit → List Visit
  | 0, _ => []
  | _, [] => []
  | fuel + 1, visit :: pending => visit :: drain fuel (visit.descend ++ pending)

end Visit

/-- All nodes at and below `root` in the order of the walk. -/
def walk (root : Node) : List Visit :=
  Visit.drain root.size [⟨root, []⟩]

end IdlLint.Schema
