import IdlLint.Text.CodePoint
import IdlLint.Text.Quoted

/-! A plain text notation for nested data: texts, numerals, arrays and objects. Only printable ASCII
is written, and every level is indented by two spaces. -/
namespace IdlLint.Report

inductive Json where
  | text (value : CodeText)
  /-- A number by its numeral. -/
  | number (numeral : String)
  | array (items : List Json)
  | object (members : List (String × Json))
deriving Inhabited

namespace Json

/-- A code unit of sixteen bits, written with four digits. -/
def escapeUnit (unit : Nat) : List Char :=
  '\\' :: 'u' :: Text.hexDigits 4 unit

/-- A code point by its one or two code units. -/
def escapeUnits (n : Nat) : List Char :=
  if n < 0x10000 then escapeUnit n
  else escapeUnit (0xd800 + (n - 0x10000) / 1024) ++ escapeUnit (0xdc00 + (n - 0x10000) % 1024)

/-- A code point inside quotes. -/
def escape (p : CodePoint) : List Char :=
  if p = Text.point '"' then ['\\', '"']
  else if p = Text.point '\\' then ['\\', '\\']
  else if p = Text.point '\n' then ['\\', 'n']
  else if p = Text.point '\r' then ['\\', 'r']
  else if p = Text.point '\t' then ['\\', 't']
  else if p = Text.point '\x08' then ['\\', 'b']
  else if p = Text.point '\x0c' then ['\\', 'f']
  else if 32 ≤ p.val && p.val ≤ 126 then [Char.ofNat p.val]
  else escapeUnits p.val

def quote (text : CodeText) : List Char :=
  '"' :: text.flatMap escape ++ ['"']

/-- The start of a line at some depth. -/
def newline (depth : Nat) : List Char :=
  '\n' :: List.replicate (2 * depth) ' '

mutual

/-- The written form of a value that begins at some depth. -/
def write (depth : Nat) : Json → List Char
  | .text value => quote value
  | .number numeral => numeral.toList
  | .array [] => ['[', ']']
  | .array (item :: rest) =>
    '[' :: newline (depth + 1) ++ item.write (depth + 1) ++ writeItems (depth + 1) rest ++
      newline depth ++ [']']
  | .object [] => ['{', '}']
  | .object ((name, value) :: rest) =>
    '{' :: newline (depth + 1) ++ quote (Text.points name) ++ [':', ' '] ++ value.write (depth + 1) ++
      writeMembers (depth + 1) rest ++ newline depth ++ ['}']

/-- The items after the first one. -/
def writeItems (depth : Nat) : List Json → List Char
  | [] => []
  | item :: rest => ',' :: newline depth ++ item.write depth ++ writeItems depth rest

/-- The members after the first one. -/
def writeMembers (depth : Nat) : List (String × Json) → List Char
  | [] => []
  | (name, value) :: rest =>
    ',' :: newline depth ++ quote (Text.points name) ++ [':', ' '] ++ value.write depth ++
      writeMembers depth rest

end

def render (value : Json) : String :=
  String.ofList (value.write 0)

end Json

end IdlLint.Report
