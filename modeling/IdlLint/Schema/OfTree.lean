import IdlLint.Grammar.Tree
import IdlLint.Schema.Basic
import IdlLint.Schema.Literal

/-! The document that a derivation tree stands for, built from the leaves upwards. -/
namespace IdlLint.Schema

/-- What a tree stands for. -/
inductive Piece where
  | token (token : Token)
  | integer (value : Int)
  | type (type : TypeExpr)
  | value (value : Value)
  | entry (entry : Entry)
  | note (note : Note)
  | annotations (annotations : List Note)
  | enumItem (item : EnumItem)
  | field (field : Field)
  | fields (fields : List Field)
  | function (function : Function)
  | header (header : Header)
  | definition (definition : Definition)
  | document (document : Document)
  /-- Stands for a tree that is not a derivation. -/
  | malformed
deriving Inhabited

namespace Piece

def type? : Piece → Option TypeExpr
  | .type t => some t
  | _ => none

def value? : Piece → Option Value
  | .value v => some v
  | _ => none

def entry? : Piece → Option Entry
  | .entry e => some e
  | _ => none

def note? : Piece → Option Note
  | .note a => some a
  | _ => none

def enumItem? : Piece → Option EnumItem
  | .enumItem i => some i
  | _ => none

def field? : Piece → Option Field
  | .field f => some f
  | _ => none

def function? : Piece → Option Function
  | .function f => some f
  | _ => none

def header? : Piece → Option Header
  | .header h => some h
  | _ => none

def definition? : Piece → Option Definition
  | .definition d => some d
  | _ => none

def integer? : Piece → Option Int
  | .integer n => some n
  | _ => none

def name? : Piece → Option String
  | .token t => some (String.ofList t.text)
  | _ => none

def requiredness? : Piece → Option Requiredness
  | .token ⟨.word .required, _, _⟩ => some .required
  | .token ⟨.word .optional, _, _⟩ => some .optional
  | _ => none

/-- The annotations in the slot of an optional list of them. -/
def annotationsOf : List Piece → List Note
  | [.annotations as] => as
  | _ => []

/-- The fields in the slot of an optional list of exceptions. -/
def fieldsOf : List Piece → List Field
  | [.fields fs] => fs
  | _ => []

end Piece

/-- A type written as a single name. Only base types keep their annotations. -/
def TypeExpr.ofName (name : String) (annotations : List Note) (start : Position) :
    TypeExpr :=
  match BaseType.ofName? name with
  | some type => .base type annotations start
  | none => .reference name start

/-- A value written as a single token. -/
def Value.ofToken (token : Token) (start : Position) : Value :=
  match token.terminal with
  | .double => .double (Binary64.ofChars token.text) start
  | .string => .string (String.ofList (Literal.unquote token.text)) start
  | _ =>
    let name := String.ofList token.text
    if name = "true" then .boolean true start
    else if name = "false" then .boolean false start
    else .reference name start

/-- The text of a token that is either a name or a string literal. -/
def nameOrString (token : Token) : String :=
  if token.terminal = .string then String.ofList (Literal.unquote token.text)
  else String.ofList token.text

/-- The text in the slot of an optional value of an annotation. -/
def textOf : List Piece → String
  | [.token t] => nameOrString t
  | _ => ""

/-- What a node stands for, given what the trees in its slots stand for. -/
def assemble (rule : Rule) (start : Position) (slots : List (List Piece)) : Piece :=
  match rule, slots with
  | .document, [items] =>
    .document ⟨items.filterMap Piece.header?, items.filterMap Piece.definition?⟩
  | .item, [[piece], _] => piece
  | .separator, [[piece]] => piece
  | .inclusion, [_, [.token path]] =>
    .header (.include ⟨String.ofList (Literal.unquote path.text), start⟩)
  | .cppInclusion, [_, [.token path]] =>
    .header (.cppInclude ⟨String.ofList (Literal.unquote path.text), start⟩)
  | .scoping, [_, [.token language], [.token name]] =>
    .header (.scope ⟨String.ofList language.text, nameOrString name, start⟩)
  | .scopeName, [[piece]] => piece
  | .scopeTarget, [[piece]] => piece
  | .constant, [_, [.type type], [.token name], _, [.value value], annotations] =>
    .definition (.constant
      ⟨String.ofList name.text, type, value, Piece.annotationsOf annotations, start⟩)
  | .typedef, [_, [.type type], [.token name], annotations] =>
    .definition (.typedef ⟨String.ofList name.text, type, Piece.annotationsOf annotations, start⟩)
  | .enum, [_, [.token name], _, items, _, annotations] =>
    .definition (.enum ⟨String.ofList name.text, items.filterMap Piece.enumItem?,
      Piece.annotationsOf annotations, start⟩)
  | .struct, [_, [.token name], _, _, fields, _, annotations] =>
    .definition (.struct ⟨String.ofList name.text, .struct, fields.filterMap Piece.field?,
      Piece.annotationsOf annotations, start⟩)
  | .union, [_, [.token name], _, _, fields, _, annotations] =>
    .definition (.struct ⟨String.ofList name.text, .union, fields.filterMap Piece.field?,
      Piece.annotationsOf annotations, start⟩)
  | .exception, [_, [.token name], _, fields, _, annotations] =>
    .definition (.struct ⟨String.ofList name.text, .exception, fields.filterMap Piece.field?,
      Piece.annotationsOf annotations, start⟩)
  | .service, [_, [.token name], parent, _, functions, _, annotations] =>
    .definition (.service ⟨String.ofList name.text, functions.filterMap Piece.function?,
      parent.head?.bind Piece.name?, Piece.annotationsOf annotations, start⟩)
  | .enumItem, [[.token name], value, annotations, _] =>
    .enumItem ⟨String.ofList name.text, value.head?.bind Piece.integer?,
      Piece.annotationsOf annotations, start⟩
  | .enumValue, [_, [piece]] => piece
  | .parent, [_, [piece]] => piece
  | .function, [oneway, [result], [.token name], _, parameters, _, throws, annotations, _] =>
    .function {
      name := String.ofList name.text
      result := result.type?
      parameters := parameters.filterMap Piece.field?
      exceptions := Piece.fieldsOf throws
      oneway := !oneway.isEmpty
      annotations := Piece.annotationsOf annotations
      position := start }
  | .result, [[piece]] => piece
  | .throws, [_, _, fields, _] => .fields (fields.filterMap Piece.field?)
  | .field, [id, requiredness, [.type type], [.token name], default, annotations, _] =>
    .field {
      name := String.ofList name.text
      type := type
      id := id.head?.bind Piece.integer?
      requiredness := requiredness.head?.bind Piece.requiredness?
      default := default.head?.bind Piece.value?
      annotations := Piece.annotationsOf annotations
      position := start }
  | .fieldId, [[piece], _] => piece
  | .requiredness, [[piece]] => piece
  | .default, [_, [piece]] => piece
  | .type, [[.token name], annotations] =>
    .type (.ofName (String.ofList name.text) (Piece.annotationsOf annotations) start)
  | .type, [_, _, _, [.type key], _, [.type value], _, annotations] =>
    .type (.map key value (Piece.annotationsOf annotations) start)
  | .type, [_, _, [.type value], _, _, annotations] =>
    .type (.list value (Piece.annotationsOf annotations) start)
  | .type, [_, _, _, [.type value], _, annotations] =>
    .type (.set value (Piece.annotationsOf annotations) start)
  | .cppType, [_, [piece]] => piece
  | .value, [[.integer n]] => .value (.integer n start)
  | .value, [[.token token]] => .value (.ofToken token start)
  | .value, [[.token ⟨.mark .leftBracket, _, _⟩], items, _] =>
    .value (.list (items.filterMap Piece.value?) start)
  | .value, [[.token ⟨.mark .leftBrace, _, _⟩], entries, _] =>
    .value (.map (entries.filterMap Piece.entry?) start)
  | .element, [[piece], _] => piece
  | .entry, [[.value key], _, [.value value], _] => .entry (.mk key value start)
  | .integer, [[.token token]] => .integer (Literal.integer token.terminal token.text)
  | .annotations, [_, annotations, _] =>
    .annotations (annotations.filterMap Piece.note?)
  | .note, [[.token name], value, _] =>
    .note ⟨String.ofList name.text, textOf value, start⟩
  | .noteValue, [_, [piece]] => piece
  | _, _ => .malformed

mutual

/-- What a tree stands for. -/
def Piece.ofTree : Tree → Piece
  | .leaf t => .token t
  | .node rule start slots => assemble rule start (Piece.ofSlots slots)

def Piece.ofSlots : List (List Tree) → List (List Piece)
  | [] => []
  | slot :: rest => Piece.ofForest slot :: Piece.ofSlots rest

def Piece.ofForest : List Tree → List Piece
  | [] => []
  | tree :: rest => Piece.ofTree tree :: Piece.ofForest rest

end

/-- The document that a derivation tree stands for. -/
def Document.ofTree (tree : Tree) : Document :=
  match Piece.ofTree tree with
  | .document d => d
  | _ => ⟨[], []⟩

end IdlLint.Schema
