import IdlLint.Grammar.Terminal
import IdlLint.Text.Position

/-! The spellings of terminals. Every function here takes the text that remains and gives the part
at its start that spells the terminal, if there is one. -/
namespace IdlLint

/-- A terminal as it stands in a text. -/
structure Token where
  terminal : Terminal
  text : List Char
  position : Position
deriving DecidableEq, Repr, Inhabited

namespace Lexeme

def isNameStart (c : Char) : Bool :=
  c.isAlpha || c == '_'

def isNamePart (c : Char) : Bool :=
  c.isAlphanum || c == '_' || c == '.'

def isHexDigit (c : Char) : Bool :=
  c.isDigit || ('a' ≤ c && c ≤ 'f') || ('A' ≤ c && c ≤ 'F')

def isSpace (c : Char) : Bool :=
  c == ' ' || c == '\t' || c == '\n' || c == '\r' || c == '\x0c'

def sign : List Char → List Char
  | '+' :: _ => ['+']
  | '-' :: _ => ['-']
  | _ => []

def identifier : List Char → Option (List Char)
  | c :: rest => if isNameStart c then some (c :: rest.takeWhile isNamePart) else none
  | [] => none

def decimal (text : List Char) : Option (List Char) :=
  let digits := (text.drop (sign text).length).takeWhile Char.isDigit
  if digits.isEmpty then none else some (sign text ++ digits)

def hexadecimal (text : List Char) : Option (List Char) :=
  match text.drop (sign text).length with
  | '0' :: x :: rest =>
    let digits := rest.takeWhile isHexDigit
    if (x = 'x' ∨ x = 'X') ∧ !digits.isEmpty then some (sign text ++ '0' :: x :: digits) else none
  | _ => none

/-- The power of ten after the digits of a number. -/
def exponent : List Char → Option (List Char)
  | e :: rest => if e = 'e' ∨ e = 'E' then (decimal rest).map (e :: ·) else none
  | [] => none

/-- A number with a fraction or a power of ten; digits may be missing on one side of the point. -/
def double (text : List Char) : Option (List Char) :=
  let body := text.drop (sign text).length
  let whole := body.takeWhile Char.isDigit
  match body.drop whole.length with
  | '.' :: rest =>
    let fraction := rest.takeWhile Char.isDigit
    if whole.isEmpty && fraction.isEmpty then none
    else some (sign text ++ whole ++ '.' :: fraction ++
      (exponent (rest.drop fraction.length)).getD [])
  | rest => if whole.isEmpty then none else (exponent rest).map (sign text ++ whole ++ ·)

/-- The rest of a string literal up to the closing `quote`. A backslash takes the next character
with it; neither may be a line feed. -/
def quotedTail (quote : Char) : List Char → Option (List Char)
  | [] => none
  | '\\' :: c :: rest => if c = '\n' then none else (quotedTail quote rest).map ('\\' :: c :: ·)
  | c :: rest =>
    if c = quote then some [c]
    else if c = '\\' ∨ c = '\n' then none
    else (quotedTail quote rest).map (c :: ·)

def string : List Char → Option (List Char)
  | c :: rest => if c = '"' ∨ c = '\'' then (quotedTail c rest).map (c :: ·) else none
  | [] => none

/-- A fixed spelling. -/
def fixed (spelling text : List Char) : Option (List Char) :=
  if spelling.isPrefixOf text then some spelling else none

/-- The part at the start of `text` that spells `terminal`. -/
def ofTerminal (terminal : Terminal) (text : List Char) : Option (List Char) :=
  match terminal with
  | .word keyword => fixed keyword.spelling text
  | .mark sign => fixed [sign.char] text
  | .identifier => identifier text
  | .string => string text
  | .decimal => decimal text
  | .hexadecimal => hexadecimal text
  | .double => double text
  | .endOfFile => none

/-- The rest of a block comment, its end included. -/
def blockTail : List Char → Option (List Char)
  | [] => none
  | '*' :: '/' :: _ => some ['*', '/']
  | c :: rest => (blockTail rest).map (c :: ·)

/-- A run of white space or one comment, which separates tokens and means nothing. -/
def blank : List Char → Option (List Char)
  | '#' :: rest => some ('#' :: rest.takeWhile (· != '\n'))
  | '/' :: '/' :: rest => some ('/' :: '/' :: rest.takeWhile (· != '\n'))
  | '/' :: '*' :: rest => (blockTail rest).map ('/' :: '*' :: ·)
  | c :: rest => if isSpace c then some (c :: rest.takeWhile isSpace) else none
  | [] => none

/-- The keyword that an identifier is taken for, among the terminals `allowed`. -/
def keyword? (allowed : List Terminal) (text : List Char) : Option Keyword :=
  Keyword.all.find? fun keyword => keyword.spelling == text && allowed.contains (.word keyword)

/-- Terminals that are looked for on their own: where an identifier may stand, keywords are found
by reading a whole identifier. -/
def sought (allowed : List Terminal) (terminal : Terminal) : Bool :=
  match terminal with
  | .word _ => allowed.contains terminal && !allowed.contains .identifier
  | _ => allowed.contains terminal

/-- The token at the start of `text` when only the terminals `allowed` may stand there. -/
def next (allowed : List Terminal) (text : List Char) : Option (Terminal × List Char) :=
  (Terminal.priority.filter (sought allowed)).findSome? fun terminal =>
    (ofTerminal terminal text).map fun lexeme =>
      match terminal, keyword? allowed lexeme with
      | .identifier, some keyword => (.word keyword, lexeme)
      | _, _ => (terminal, lexeme)

end Lexeme

end IdlLint
