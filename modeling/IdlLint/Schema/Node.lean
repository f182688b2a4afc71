import IdlLint.Schema.Basic

/-! All nodes of a document under one type, with their children in the order of the text's
grammar. -/
namespace IdlLint.Schema

inductive NodeKind where
  | document | include | cppInclude | scope
  | constant | typedef | enum | enumItem | struct | field | service | function
  | baseType | mapType | listType | setType | typeReference
  | integer | double | string | boolean | reference | list | map | entry
  | note
deriving DecidableEq, Repr, Inhabited

namespace NodeKind

def name : NodeKind → String
  | .document => "Program"
  | .include => "Include"
  | .cppInclude => "CppInclude"
  | .scope => "Namespace"
  | .constant => "Constant"
  | .typedef => "Typedef"
  | .enum => "Enum"
  | .enumItem => "EnumItem"
  | .struct => "Struct"
  | .field => "Field"
  | .service => "Service"
  | .function => "Function"
  | .baseType => "BaseType"
  | .mapType => "MapType"
  | .listType => "ListType"
  | .setType => "SetType"
  | .typeReference => "TypeReference"
  | .integer => "ConstantInteger"
  | .double => "ConstantDouble"
  | .string => "ConstantString"
  | .boolean => "ConstantBoolean"
  | .reference => "ConstantReference"
  | .list => "ConstantList"
  | .map => "ConstantMap"
  | .entry => "ConstantMapItem"
  | .note => "Annotation"

def all : List NodeKind :=
  [.document, .include, .cppInclude, .scope, .constant, .typedef, .enum, .enumItem, .struct,
    .field, .service, .function, .baseType, .mapType, .listType, .setType, .typeReference,
    .integer, .double, .string, .boolean, .reference, .list, .map, .entry, .note]

def ofName? (name : String) : Option NodeKind :=
  all.find? fun kind => kind.name == name

end NodeKind

inductive Node where
  | document (node : Document)
  | include (node : Include)
  | cppInclude (node : CppInclude)
  | scope (node : Scope)
  | constant (node : Constant)
  | typedef (node : Typedef)
  | enum (node : Enum)
  | enumItem (node : EnumItem)
  | struct (node : Struct)
  | field (node : Field)
  | service (node : Service)
  | function (node : Function)
  | type (node : TypeExpr)
  | value (node : Value)
  | entry (node : Entry)
  | note (node : Note)
deriving Inhabited

def TypeExpr.kind : TypeExpr → NodeKind
  | .base .. => .baseType
  | .map .. => .mapType
  | .list .. => .listType
  | .set .. => .setType
  | .reference .. => .typeReference

def TypeExpr.position : TypeExpr → Position
  | .base _ _ p => p
  | .map _ _ _ p => p
  | .list _ _ p => p
  | .set _ _ p => p
  | .reference _ p => p

def TypeExpr.annotations : TypeExpr → List Note
  | .base _ as _ => as
  | .map _ _ as _ => as
  | .list _ as _ => as
  | .set _ as _ => as
  | .reference _ _ => []

def Value.kind : Value → NodeKind
  | .integer .. => .integer
  | .double .. => .double
  | .string .. => .string
  | .boolean .. => .boolean
  | .reference .. => .reference
  | .list .. => .list
  | .map .. => .map

def Value.position : Value → Position
  | .integer _ p => p
  | .double _ p => p
  | .string _ p => p
  | .boolean _ p => p
  | .reference _ p => p
  | .list _ p => p
  | .map _ p => p

def Entry.position : Entry → Position
  | .mk _ _ p => p

def Header.toNode : Header → Node
  | .include h => .include h
  | .cppInclude h => .cppInclude h
  | .scope h => .scope h

def Definition.toNode : Definition → Node
  | .constant d => .constant d
  | .typedef d => .typedef d
  | .enum d => .enum d
  | .struct d => .struct d
  | .service d => .service d

namespace Node

def kind : Node → NodeKind
  | .document _ => .document
  | .include _ => .include
  | .cppInclude _ => .cppInclude
  | .scope _ => .scope
  | .constant _ => .constant
  | .typedef _ => .typedef
  | .enum _ => .enum
  | .enumItem _ => .enumItem
  | .struct _ => .struct
  | .field _ => .field
  | .service _ => .service
  | .function _ => .function
  | .type t => t.kind
  | .value v => v.kind
  | .entry _ => .entry
  | .note _ => .note

def position : Node → Position
  | .document _ => .origin
  | .include n => n.position
  | .cppInclude n => n.position
  | .scope n => n.position
  | .constant n => n.position
  | .typedef n => n.position
  | .enum n => n.position
  | .enumItem n => n.position
  | .struct n => n.position
  | .field n => n.position
  | .service n => n.position
  | .function n => n.position
  | .type t => t.position
  | .value v => v.position
  | .entry e => e.position
  | .note n => n.position

/-- The annotations that a node carries. -/
def annotations : Node → List Note
  | .constant n => n.annotations
  | .typedef n => n.annotations
  | .enum n => n.annotations
  | .enumItem n => n.annotations
  | .struct n => n.annotations
  | .field n => n.annotations
  | .service n => n.annotations
  | .function n => n.annotations
  | .type t => t.annotations
  | _ => []

/-- The name of a node that has one. -/
def name? : Node → Option String
  | .include n => some n.name
  | .scope n => some n.name
  | .constant n => some n.name
  | .typedef n => some n.name
  | .enum n => some n.name
  | .enumItem n => some n.name
  | .struct n => some n.name
  | .field n => some n.name
  | .service n => some n.name
  | .function n => some n.name
  | .type (.base t _ _) => some t.name
  | .type (.reference name _) => some name
  | .value (.reference name _) => some name
  | .note n => some n.name
  | _ => none

def typeChildren : TypeExpr → List Node
  | .base _ as _ => as.map .note
  | .map k v as _ => .type k :: .type v :: as.map .note
  | .list v as _ => .type v :: as.map .note
  | .set v as _ => .type v :: as.map .note
  | .reference _ _ => []

def valueChildren : Value → List Node
  | .list items _ => items.map .value
  | .map entries _ => entries.map .entry
  | _ => []

/-- The direct children of a node, from left to right. -/
def children : Node → List Node
  | .document n => n.headers.map Header.toNode ++ n.definitions.map Definition.toNode
  | .constant n => .type n.type :: .value n.value :: n.annotations.map .note
  | .typedef n => .type n.type :: n.annotations.map .note
  | .enum n => n.items.map .enumItem ++ n.annotations.map .note
  | .enumItem n => n.annotations.map .note
  | .struct n => n.fields.map .field ++ n.annotations.map .note
  | .field n => .type n.type :: (n.default.toList.map .value ++ n.annotations.map .note)
  | .service n => n.functions.map .function ++ n.annotations.map .note
  | .function n => n.result.toList.map .type ++ n.parameters.map .field ++
      n.exceptions.map .field ++ n.annotations.map .note
  | .type t => typeChildren t
  | .value v => valueChildren v
  | .entry (.mk k v _) => [.value k, .value v]
  | .include _ | .cppInclude _ | .scope _ | .note _ => []

end Node

end IdlLint.Schema
