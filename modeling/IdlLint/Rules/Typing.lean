import IdlLint.Lint.Check

/-! Rules about types: what containers may hold, and which types may not be used at all. -/
namespace IdlLint.Rules

open IdlLint.Schema

/-- The kind of what a reference to a type leads to. -/
def targetKind : TypeTarget → Option String
  | .type (.base type _ _) => some type.name
  | .type (.map ..) => some "map"
  | .type (.set ..) => some "set"
  | .type (.list ..) => some "list"
  | .type (.reference ..) => none
  | .definition (.enum _) => some "enum"
  | .definition (.struct struct) => some struct.kind.name
  | .definition _ => none

/-- The kind of a type after its references and typedefs have been followed: the name of a base
type, of a container, `enum`, or the kind of a structure. -/
def typeKind (ctx : Context) (type : TypeExpr) : Option String :=
  (ctx.resolveType type).bind targetKind

/-- Whether a type is a base type or an enumeration. -/
def isPrimitive (ctx : Context) (type : TypeExpr) : Bool :=
  match ctx.resolveType type with
  | some (.type (.base ..)) => true
  | some (.definition (.enum _)) => true
  | _ => false

/-- Values of sets are base types or enumerations. -/
def setValueType : NodeCheck where
  ruleId := "set.value.type"
  kinds := [.setType]
  run ctx node := match node with
    | .type (.set value _ position) =>
      .ok (if isPrimitive ctx value then []
        else [ctx.error position "set value must be a primitive type"])
    | _ => .ok []

/-- Keys of maps are base types or enumerations. -/
def mapKeyType : NodeCheck where
  ruleId := "map.key.type"
  kinds := [.mapType]
  run ctx node := match node with
    | .type (.map key _ _ position) =>
      .ok (if isPrimitive ctx key then []
        else [ctx.error position "map key must be a primitive type"])
    | _ => .ok []

/-- Values of maps are not of the kinds listed. -/
def mapValueDisallowed (disallowed : List String) : NodeCheck where
  ruleId := "map.value.disallowed"
  kinds := [.mapType]
  run ctx node := match node with
    | .type (.map _ value _ position) =>
      match typeKind ctx value with
      | some kind =>
        .ok (if disallowed.contains kind then
            [ctx.error position ("map value must not be a " ++ kind)]
          else [])
      | none => .ok []
    | _ => .ok []

/-- The name of a type as it is written, unless it is a reference. -/
def writtenKind : TypeExpr → Option String
  | .base type _ _ => some type.name
  | .map .. => some "map"
  | .list .. => some "list"
  | .set .. => some "set"
  | .reference .. => none

/-- The types listed are not used. -/
def typesDisallowed (disallowed : List String) : NodeCheck where
  ruleId := "types.disallowed"
  kinds := [.baseType, .mapType, .listType, .setType]
  run ctx node := match node with
    | .type type =>
      match writtenKind type with
      | some name =>
        .ok (if disallowed.contains name then
            [ctx.error type.position ("a disallowed type was used: " ++ name)]
          else [])
      | none => .ok []
    | _ => .ok []

end IdlLint.Rules
