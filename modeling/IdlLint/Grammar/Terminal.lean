/-! The terminals of the interface description language: keywords, marks and the open classes.
Each has the name under which an error message lists it. -/
namespace IdlLint

/-- Words with a fixed meaning where the grammar asks for them, and plain identifiers elsewhere. -/
inductive Keyword where
  | include | cppInclude | scope | const | typedef | enum | struct | union | exception | service
  | extends | xsdAll | oneway | void | throws | required | optional | map | set | list | cppType
deriving DecidableEq, Repr, Inhabited

namespace Keyword

def all : List Keyword :=
  [.include, .cppInclude, .scope, .const, .typedef, .enum, .struct, .union, .exception, .service,
    .extends, .xsdAll, .oneway, .void, .throws, .required, .optional, .map, .set, .list, .cppType]

def spelling : Keyword → List Char
  | .include => ['i', 'n', 'c', 'l', 'u', 'd', 'e']
  | .cppInclude => ['c', 'p', 'p', '_', 'i', 'n', 'c', 'l', 'u', 'd', 'e']
  | .scope => ['n', 'a', 'm', 'e', 's', 'p', 'a', 'c', 'e']
  | .const => ['c', 'o', 'n', 's', 't']
  | .typedef => ['t', 'y', 'p', 'e', 'd', 'e', 'f']
  | .enum => ['e', 'n', 'u', 'm']
  | .struct => ['s', 't', 'r', 'u', 'c', 't']
  | .union => ['u', 'n', 'i', 'o', 'n']
  | .exception => ['e', 'x', 'c', 'e', 'p', 't', 'i', 'o', 'n']
  | .service => ['s', 'e', 'r', 'v', 'i', 'c', 'e']
  | .extends => ['e', 'x', 't', 'e', 'n', 'd', 's']
  | .xsdAll => ['x', 's', 'd', '_', 'a', 'l', 'l']
  | .oneway => ['o', 'n', 'e', 'w', 'a', 'y']
  | .void => ['v', 'o', 'i', 'd']
  | .throws => ['t', 'h', 'r', 'o', 'w', 's']
  | .required => ['r', 'e', 'q', 'u', 'i', 'r', 'e', 'd']
  | .optional => ['o', 'p', 't', 'i', 'o', 'n', 'a', 'l']
  | .map => ['m', 'a', 'p']
  | .set => ['s', 'e', 't']
  | .list => ['l', 'i', 's', 't']
  | .cppType => ['c', 'p', 'p', '_', 't', 'y', 'p', 'e']

end Keyword

/-- Punctuation. -/
inductive Mark where
  | comma | semicolon | equals | colon | star
  | leftBrace | rightBrace | leftParen | rightParen | leftBracket | rightBracket
  | leftAngle | rightAngle
deriving DecidableEq, Repr, Inhabited

namespace Mark

def all : List Mark :=
  [.comma, .semicolon, .equals, .colon, .star, .leftBrace, .rightBrace, .leftParen, .rightParen,
    .leftBracket, .rightBracket, .leftAngle, .rightAngle]

def char : Mark → Char
  | .comma => ','
  | .semicolon => ';'
  | .equals => '='
  | .colon => ':'
  | .star => '*'
  | .leftBrace => '{'
  | .rightBrace => '}'
  | .leftParen => '('
  | .rightParen => ')'
  | .leftBracket => '['
  | .rightBracket => ']'
  | .leftAngle => '<'
  | .rightAngle => '>'

end Mark

inductive Terminal where
  | word (keyword : Keyword)
  | mark (sign : Mark)
  | identifier
  | string
  | decimal
  | hexadecimal
  | double
  | endOfFile
deriving DecidableEq, Repr, Inhabited

namespace Terminal

/-- The terminals in the order in which they are tried on a text. Numbers with a base or a fraction
come first, so that their first digits are not taken for a whole integer. -/
def priority : List Terminal :=
  [.hexadecimal, .double, .identifier, .string, .decimal] ++ Mark.all.map .mark ++
    Keyword.all.map .word

/-- How an error message names the terminal: fixed spellings stand in quotes. -/
def name : Terminal → String
  | .word keyword => "'" ++ String.ofList keyword.spelling ++ "'"
  | .mark sign => "'" ++ String.singleton sign.char ++ "'"
  | .identifier => "identifier"
  | .string => "string"
  | .decimal => "integer"
  | .hexadecimal => "integer"
  | .double => "number"
  | .endOfFile => "end of file"

end Terminal

end IdlLint
