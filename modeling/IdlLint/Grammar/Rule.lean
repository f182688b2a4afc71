import IdlLint.Grammar.Terminal

/-! The grammar: rules with their right-hand sides, the terminals that can begin a rule and those
that can follow it. One terminal of look-ahead always decides which alternative applies. -/
namespace IdlLint

/-- The nonterminals of the grammar. -/
inductive Rule where
  | document | item | separator
  | inclusion | cppInclusion | scoping | scopeName | scopeTarget
  | constant | typedef | enum | struct | union | exception | service
  | enumItem | enumValue | parent | function | result | throws
  | field | fieldId | requiredness | default
  | type | cppType
  | value | element | entry | integer
  | annotations | note | noteValue
deriving DecidableEq, Repr, Inhabited

inductive Symbol where
  | terminal (terminal : Terminal)
  | rule (rule : Rule)
deriving DecidableEq, Repr, Inhabited

/-- How often a symbol of a right-hand side may stand. -/
inductive Repetition where
  | once | optional | many
deriving DecidableEq, Repr, Inhabited

structure Element where
  repetition : Repetition
  symbol : Symbol
deriving DecidableEq, Repr, Inhabited

namespace Element

/-- Whether the element may be left out. -/
def isOptional (e : Element) : Bool :=
  e.repetition != .once

def word (keyword : Keyword) : Element := ⟨.once, .terminal (.word keyword)⟩

def mark (sign : Mark) : Element := ⟨.once, .terminal (.mark sign)⟩

def token (terminal : Terminal) : Element := ⟨.once, .terminal terminal⟩

def one (rule : Rule) : Element := ⟨.once, .rule rule⟩

def optional (rule : Rule) : Element := ⟨.optional, .rule rule⟩

def many (rule : Rule) : Element := ⟨.many, .rule rule⟩

end Element

namespace Rule

open Element in
/-- The alternatives for a rule, each a sequence of elements. -/
def alternatives : Rule → List (List Element)
  | .document => [[many .item]]
  | .item => [[one .inclusion, optional .separator], [one .cppInclusion, optional .separator],
      [one .scoping, optional .separator], [one .constant, optional .separator],
      [one .typedef, optional .separator], [one .enum, optional .separator],
      [one .struct, optional .separator], [one .union, optional .separator],
      [one .exception, optional .separator], [one .service, optional .separator]]
  | .separator => [[mark .comma], [mark .semicolon]]
  | .inclusion => [[word .include, token .string]]
  | .cppInclusion => [[word .cppInclude, token .string]]
  | .scoping => [[word .scope, one .scopeName, one .scopeTarget]]
  | .scopeName => [[mark .star], [token .identifier]]
  | .scopeTarget => [[token .identifier], [token .string]]
  | .constant => [[word .const, one .type, token .identifier, mark .equals, one .value,
      optional .annotations]]
  | .typedef => [[word .typedef, one .type, token .identifier, optional .annotations]]
  | .enum => [[word .enum, token .identifier, mark .leftBrace, many .enumItem, mark .rightBrace,
      optional .annotations]]
  | .struct => [[word .struct, token .identifier, ⟨.optional, .terminal (.word .xsdAll)⟩,
      mark .leftBrace, many .field, mark .rightBrace, optional .annotations]]
  | .union => [[word .union, token .identifier, ⟨.optional, .terminal (.word .xsdAll)⟩,
      mark .leftBrace, many .field, mark .rightBrace, optional .annotations]]
  | .exception => [[word .exception, token .identifier, mark .leftBrace, many .field,
      mark .rightBrace, optional .annotations]]
  | .service => [[word .service, token .identifier, optional .parent, mark .leftBrace,
      many .function, mark .rightBrace, optional .annotations]]
  | .enumItem => [[token .identifier, optional .enumValue, optional .annotations,
      optional .separator]]
  | .enumValue => [[mark .equals, one .integer]]
  | .parent => [[word .extends, token .identifier]]
  | .function => [[⟨.optional, .terminal (.word .oneway)⟩, one .result, token .identifier,
      mark .leftParen, many .field, mark .rightParen, optional .throws, optional .annotations,
      optional .separator]]
  | .result => [[word .void], [one .type]]
  | .throws => [[word .throws, mark .leftParen, many .field, mark .rightParen]]
  | .field => [[optional .fieldId, optional .requiredness, one .type, token .identifier,
      optional .default, optional .annotations, optional .separator]]
  | .fieldId => [[one .integer, mark .colon]]
  | .requiredness => [[word .required], [word .optional]]
  | .default => [[mark .equals, one .value]]
  | .type => [[token .identifier, optional .annotations],
      [word .map, optional .cppType, mark .leftAngle, one .type, mark .comma, one .type,
        mark .rightAngle, optional .annotations],
      [word .set, optional .cppType, mark .leftAngle, one .type, mark .rightAngle,
        optional .annotations],
      [word .list, mark .leftAngle, one .type, mark .rightAngle, optional .cppType,
        optional .annotations]]
  | .cppType => [[word .cppType, token .string]]
  | .value => [[one .integer], [token .double], [token .string], [token .identifier],
      [mark .leftBracket, many .element, mark .rightBracket],
      [mark .leftBrace, many .entry, mark .rightBrace]]
  | .element => [[one .value, optional .separator]]
  | .entry => [[one .value, mark .colon, one .value, optional .separator]]
  | .integer => [[token .decimal], [token .hexadecimal]]
  | .annotations => [[mark .leftParen, many .note, mark .rightParen]]
  | .note => [[token .identifier, optional .noteValue, optional .separator]]
  | .noteValue => [[mark .equals, token .string]]

private def separators : List Terminal := [.mark .comma, .mark .semicolon]

private def integers : List Terminal := [.decimal, .hexadecimal]

private def types : List Terminal := [.identifier, .word .map, .word .set, .word .list]

private def values : List Terminal :=
  integers ++ [.double, .string, .identifier, .mark .leftBracket, .mark .leftBrace]

private def fields : List Terminal := integers ++ [.word .required, .word .optional] ++ types

private def functions : List Terminal := [.word .oneway, .word .void] ++ types

private def items : List Terminal :=
  [.word .include, .word .cppInclude, .word .scope, .word .const, .word .typedef, .word .enum,
    .word .struct, .word .union, .word .exception, .word .service]

/-- The terminals with which a rule can begin. -/
def first : Rule → List Terminal
  | .document => items
  | .item => items
  | .separator => separators
  | .inclusion => [.word .include]
  | .cppInclusion => [.word .cppInclude]
  | .scoping => [.word .scope]
  | .scopeName => [.mark .star, .identifier]
  | .scopeTarget => [.identifier, .string]
  | .constant => [.word .const]
  | .typedef => [.word .typedef]
  | .enum => [.word .enum]
  | .struct => [.word .struct]
  | .union => [.word .union]
  | .exception => [.word .exception]
  | .service => [.word .service]
  | .enumItem => [.identifier]
  | .enumValue => [.mark .equals]
  | .parent => [.word .extends]
  | .function => functions
  | .result => .word .void :: types
  | .throws => [.word .throws]
  | .field => fields
  | .fieldId => integers
  | .requiredness => [.word .required, .word .optional]
  | .default => [.mark .equals]
  | .type => types
  | .cppType => [.word .cppType]
  | .value => values
  | .element => values
  | .entry => values
  | .integer => integers
  | .annotations => [.mark .leftParen]
  | .note => [.identifier]
  | .noteValue => [.mark .equals]

private def afterItem : List Terminal := .endOfFile :: items

private def afterStatement : List Terminal := separators ++ afterItem

private def afterField : List Terminal := [.mark .rightBrace, .mark .rightParen] ++ fields

private def afterFunction : List Terminal := .mark .rightBrace :: functions

private def afterEnumItem : List Terminal := [.mark .rightBrace, .identifier]

private def afterType : List Terminal := [.identifier, .mark .comma, .mark .rightAngle]

private def afterValue : List Terminal :=
  .mark .leftParen :: .mark .colon :: .mark .rightBracket :: afterStatement ++ afterField ++ values

/-- The terminals that can stand after a rule somewhere in a document. -/
def follow : Rule → List Terminal
  | .document => [.endOfFile]
  | .item => afterItem
  | .separator => .mark .rightBracket :: .word .oneway :: .word .void ::
      (afterItem ++ afterField ++ values)
  | .inclusion | .cppInclusion | .scoping | .scopeTarget | .constant | .typedef | .enum
  | .struct | .union | .exception | .service => afterStatement
  | .scopeName => [.identifier, .string]
  | .enumItem => afterEnumItem
  | .enumValue => .mark .leftParen :: (separators ++ afterEnumItem)
  | .parent => [.mark .leftBrace]
  | .function => afterFunction
  | .result => [.identifier]
  | .throws => .mark .leftParen :: (separators ++ afterFunction)
  | .field => afterField
  | .fieldId => [.word .required, .word .optional] ++ types
  | .requiredness => types
  | .default => .mark .leftParen :: (separators ++ afterField)
  | .type => afterType
  | .cppType => .mark .leftAngle :: .mark .leftParen :: afterType
  | .value => afterValue
  | .element => .mark .rightBracket :: values
  | .entry => .mark .rightBrace :: values
  | .integer => afterValue
  | .annotations => .mark .rightAngle :: .word .oneway :: .word .void ::
      (afterStatement ++ afterField)
  | .note => [.identifier, .mark .rightParen]
  | .noteValue => [.identifier, .mark .rightParen] ++ separators

end Rule

namespace Symbol

/-- The terminals with which a symbol can begin. -/
def first : Symbol → List Terminal
  | .terminal t => [t]
  | .rule r => r.first

end Symbol

namespace Element

/-- The terminals with which a sequence of elements can begin. -/
def firstOf : List Element → List Terminal
  | [] => []
  | e :: rest => if e.isOptional then e.symbol.first ++ firstOf rest else e.symbol.first

/-- Whether every element of a sequence may be left out. -/
def allOptional (elements : List Element) : Bool :=
  elements.all isOptional

end Element

end IdlLint
