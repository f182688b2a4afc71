import IdlLint.Data.OrderedMap
import IdlLint.Schema.Basic

/-! What the names in a document stand for. A name such as `shared.Id` is looked up in the included
document that is called `shared`, any other name in the document it is written in. -/
namespace IdlLint.Schema

/-- The included documents by the names under which they are referred to. -/
abbrev Includes := OrderedMap String Document

/-- What a reference to a type leads to. -/
inductive TypeTarget where
  | type (type : TypeExpr)
  | definition (definition : Definition)
deriving Inhabited

/-- What a reference to a constant leads to. -/
inductive ConstantTarget where
  | constant (constant : Constant)
  | item (item : EnumItem)
deriving Inhabited

/-- Splits a text at the first `c`; the second part is empty if there is none. -/
def splitFirst (c : Char) (text : List Char) : List Char × List Char :=
  (text.takeWhile (· != c), (text.dropWhile (· != c)).tail)

/-- Splits a text at the last `c`; the first part is empty if there is none. -/
def splitLast (c : Char) (text : List Char) : List Char × List Char :=
  ((text.reverse.dropWhile (· != c)).tail.reverse, (text.reverse.takeWhile (· != c)).reverse)

/-- The name to look up and the document to look in, for a name used in `document`. -/
def qualify (name : String) (document : Document) (includes : Includes) : String × Document :=
  let (qualifier, rest) := splitFirst '.' name.toList
  if rest.isEmpty then (name, document)
  else
    match includes.get? (String.ofList qualifier) with
    | some included => (String.ofList rest, included)
    | none => (name, document)

/-- A chain of references and typedefs is followed this many steps. -/
def resolutionDepth : Nat := 32

/-- Follows references and typedefs from `current`, which is used in `owner`. -/
def follow (includes : Includes) : Nat → TypeTarget → Document → Option TypeTarget
  | 0, _, _ => none
  | fuel + 1, .type (.reference name _), owner =>
    let (localName, holder) := qualify name owner includes
    match holder.lookup localName with
    | some found => follow includes fuel (.definition found) holder
    | none => none
  | fuel + 1, .definition (.typedef typedef), owner =>
    follow includes fuel (.type typedef.type) owner
  | _ + 1, current, _ => some current

/-- The type or definition that `type` leads to, if any. -/
def resolveType (type : TypeExpr) (document : Document) (includes : Includes) :
    Option TypeTarget :=
  follow includes resolutionDepth (.type type) document

/-- The enumeration called `name` in `owner`, directly or through typedefs of that document. -/
def enumNamed (name : String) (owner : Document) : Option Enum :=
  match owner.lookup name with
  | some (.enum enum) => some enum
  | some (.typedef typedef) =>
    match resolveType typedef.type owner .empty with
    | some (.definition (.enum enum)) => some enum
    | _ => none
  | _ => none

/-- The constant or enumeration item that `name` stands for, if any. -/
def resolveConstant (name : String) (document : Document) (includes : Includes) :
    Option ConstantTarget :=
  let (localName, owner) := qualify name document includes
  match owner.lookup localName with
  | some (.constant constant) => some (.constant constant)
  | _ =>
    let (enumName, itemName) := splitLast '.' localName.toList
    if enumName.isEmpty then none
    else
      match enumNamed (String.ofList enumName) owner with
      | some enum =>
        (enum.items.find? fun item => item.name == String.ofList itemName).map .item
      | none => none

end IdlLint.Schema
