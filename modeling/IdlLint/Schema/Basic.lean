import IdlLint.Number.Binary64
import IdlLint.Text.Position

/-! Documents of the interface description language. Every node keeps the place of its first
token. -/
namespace IdlLint.Schema

structure Note where
  name : String
  value : String
  position : Position
deriving DecidableEq, Repr, Inhabited

inductive BaseType where
  | bool | byte | i8 | i16 | i32 | i64 | double | string | binary | uuid
deriving DecidableEq, Repr, Inhabited

namespace BaseType

def all : List BaseType :=
  [.bool, .byte, .i8, .i16, .i32, .i64, .double, .string, .binary, .uuid]

def name : BaseType → String
  | .bool => "bool"
  | .byte => "byte"
  | .i8 => "i8"
  | .i16 => "i16"
  | .i32 => "i32"
  | .i64 => "i64"
  | .double => "double"
  | .string => "string"
  | .binary => "binary"
  | .uuid => "uuid"

def ofName? (name : String) : Option BaseType :=
  all.find? fun type => type.name == name

end BaseType

inductive TypeExpr where
  | base (type : BaseType) (annotations : List Note) (position : Position)
  | map (key value : TypeExpr) (annotations : List Note) (position : Position)
  | list (value : TypeExpr) (annotations : List Note) (position : Position)
  | set (value : TypeExpr) (annotations : List Note) (position : Position)
  /-- A named type, perhaps of an included document (`shared.Id`). -/
  | reference (name : String) (position : Position)
deriving DecidableEq, Repr, Inhabited

mutual

/-- The value of a constant. -/
inductive Value where
  | integer (value : Int) (position : Position)
  | double (value : Binary64) (position : Position)
  | string (value : String) (position : Position)
  | boolean (value : Bool) (position : Position)
  /-- A constant or an enumeration item (`MAX`, `Color.RED`, `shared.MAX`). -/
  | reference (name : String) (position : Position)
  | list (items : List Value) (position : Position)
  | map (entries : List Entry) (position : Position)

inductive Entry where
  | mk (key value : Value) (position : Position)

end

instance : Inhabited Value := ⟨.boolean false .nowhere⟩

instance : Inhabited Entry := ⟨.mk default default .nowhere⟩

structure Include where
  path : String
  position : Position
deriving DecidableEq, Repr, Inhabited

structure CppInclude where
  path : String
  position : Position
deriving DecidableEq, Repr, Inhabited

/-- A package name for one target language, or for all of them (`*`). -/
structure Scope where
  language : String
  name : String
  position : Position
deriving DecidableEq, Repr, Inhabited

inductive Header where
  | include (header : Include)
  | cppInclude (header : CppInclude)
  | scope (header : Scope)
deriving DecidableEq, Repr, Inhabited

structure Constant where
  name : String
  type : TypeExpr
  value : Value
  annotations : List Note
  position : Position
deriving Inhabited

structure Typedef where
  name : String
  type : TypeExpr
  annotations : List Note
  position : Position
deriving DecidableEq, Repr, Inhabited

structure EnumItem where
  name : String
  value : Option Int
  annotations : List Note
  position : Position
deriving DecidableEq, Repr, Inhabited

structure Enum where
  name : String
  items : List EnumItem
  annotations : List Note
  position : Position
deriving DecidableEq, Repr, Inhabited

inductive Requiredness where
  | required | optional
deriving DecidableEq, Repr, Inhabited

def Requiredness.name : Requiredness → String
  | .required => "required"
  | .optional => "optional"

/-- A member of a structure, a parameter or an exception of a function. -/
structure Field where
  name : String
  type : TypeExpr
  id : Option Int
  requiredness : Option Requiredness
  default : Option Value
  annotations : List Note
  position : Position
deriving Inhabited

inductive StructKind where
  | struct | union | exception
deriving DecidableEq, Repr, Inhabited

def StructKind.name : StructKind → String
  | .struct => "struct"
  | .union => "union"
  | .exception => "exception"

structure Struct where
  name : String
  kind : StructKind
  fields : List Field
  annotations : List Note
  position : Position
deriving Inhabited

structure Function where
  name : String
  /-- `none` for a function without a result. -/
  result : Option TypeExpr
  parameters : List Field
  exceptions : List Field
  oneway : Bool
  annotations : List Note
  position : Position
deriving Inhabited

structure Service where
  name : String
  functions : List Function
  parent : Option String
  annotations : List Note
  position : Position
deriving Inhabited

inductive Definition where
  | constant (definition : Constant)
  | typedef (definition : Typedef)
  | enum (definition : Enum)
  | struct (definition : Struct)
  | service (definition : Service)
deriving Inhabited

def Definition.name : Definition → String
  | .constant d => d.name
  | .typedef d => d.name
  | .enum d => d.name
  | .struct d => d.name
  | .service d => d.name

structure Document where
  headers : List Header
  definitions : List Definition
deriving Inhabited

namespace Document

def includes (d : Document) : List Include :=
  d.headers.filterMap fun
    | .include header => some header
    | _ => none

/-- The first definition called `name`. -/
def lookup (d : Document) (name : String) : Option Definition :=
  d.definitions.find? fun definition => definition.name == name

end Document

namespace Include

/-- The part of `text` after the last `c`, or all of it. -/
def afterLast (c : Char) (text : List Char) : List Char :=
  (text.reverse.takeWhile (· != c)).reverse

/-- The part of `text` before the last `c`, or all of it. -/
def beforeLast (c : Char) (text : List Char) : List Char :=
  if text.contains c then (text.reverse.dropWhile (· != c)).tail.reverse else text

/-- The name by which an including document refers to the included one: the last part of the path
without its extension. -/
def name (header : Include) : String :=
  String.ofList (beforeLast '.' (afterLast '/' header.path.toList))

end Include

end IdlLint.Schema
