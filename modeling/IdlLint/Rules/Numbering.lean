import IdlLint.Config.Settings
import IdlLint.Lint.Check

/-! Rules about numbers: the identifiers of fields and the sizes of enumerations. -/
namespace IdlLint.Rules

open IdlLint.Config
open IdlLint.Schema

/-- Enumerations have no more items than the limits allow. -/
def enumSize (limits : SizeLimits) : NodeCheck where
  ruleId := "enum.size"
  kinds := [.enum]
  run ctx node := match node with
    | .enum enum =>
      let exceeded (limit : Option Nat) : Option Nat := limit.filter (· < enum.items.length)
      let message (limit : Nat) : String :=
        "enumeration '" ++ enum.name ++ "' has more than " ++ toString limit ++ " items"
      match exceeded limits.error, exceeded limits.warning with
      | some limit, _ => .ok [ctx.error enum.position (message limit)]
      | none, some limit => .ok [ctx.warning enum.position (message limit)]
      | none, none => .ok []
    | _ => .ok []

/-- Fields have identifiers. -/
def fieldIdMissing : NodeCheck where
  ruleId := "field.id.missing"
  kinds := [.field]
  run ctx node := match node with
    | .field field =>
      .ok (if field.id.isNone then
          [ctx.error field.position ("field '" ++ field.name ++
            "' is missing an explicit field ID")]
        else [])
    | _ => .ok []

/-- Identifiers of fields are not negative. One that is too long to be written makes the check
fail. -/
def fieldIdNegative : NodeCheck where
  ruleId := "field.id.negative"
  kinds := [.field]
  run ctx node := match node with
    | .field field =>
      match field.id with
      | some id =>
        if 0 ≤ id then .ok []
        else if isWritable id then
          .ok [ctx.error field.position
            ("field ID for '" ++ field.name ++ "' (" ++ toString id ++ ") is negative")]
        else .error .unwritable
      | none => .ok []
    | _ => .ok []

/-- Identifiers of fields are not zero. -/
def fieldIdZero : NodeCheck where
  ruleId := "field.id.zero"
  kinds := [.field]
  run ctx node := match node with
    | .field field =>
      .ok (if field.id = some 0 then
          [ctx.error field.position ("field ID for '" ++ field.name ++ "' is zero")]
        else [])
    | _ => .ok []

end IdlLint.Rules
