import IdlLint.Grammar.Lexeme
import IdlLint.Number.Binary64
import IdlLint.Number.Limit

/-! The values of literals: integers in two bases and strings with escapes. -/
namespace IdlLint.Schema.Literal

/-- The character that an escape stands for. -/
def escaped : Char → Option Char
  | 'n' => some '\n'
  | 't' => some '\t'
  | 'r' => some '\r'
  | '\\' => some '\\'
  | '"' => some '"'
  | '\'' => some '\''
  | _ => none

/-- Replaces escapes in one pass; a backslash before any other character is kept. -/
def unescape : List Char → List Char
  | '\\' :: c :: rest =>
    match escaped c with
    | some d => d :: unescape rest
    | none => '\\' :: c :: unescape rest
  | c :: rest => c :: unescape rest
  | [] => []

/-- The text that a string literal stands for. -/
def unquote (literal : List Char) : List Char :=
  unescape (literal.drop 1).dropLast

def hexValue (c : Char) : Nat :=
  if c.isDigit then c.toNat - 48 else if 'a' ≤ c then c.toNat - 87 else c.toNat - 55

/-- The digits of an integer literal without sign and base mark. -/
def digits (terminal : Terminal) (literal : List Char) : List Char :=
  let body := literal.drop (Lexeme.sign literal).length
  if terminal = .hexadecimal then body.drop 2 else body

/-- The value of an integer literal. -/
def integer (terminal : Terminal) (literal : List Char) : Int :=
  let base := if terminal = .hexadecimal then 16 else 10
  let magnitude : Nat := (digits terminal literal).foldl (fun n c => base * n + hexValue c) 0
  if literal.head? = some '-' then -(magnitude : Int) else magnitude

/-- The number of digits of a decimal literal that is too long to be read. -/
def excess? (token : Token) : Option Nat :=
  let count := (digits token.terminal token.text).length
  if token.terminal = .decimal ∧ mostDigits < count then some count else none

end IdlLint.Schema.Literal
