import IdlLint.Grammar.Machine
import IdlLint.Text.Quoted

/-! From a text to its derivation tree. The text is read character by character; at the start of
each token the machine tells which terminals may stand there. -/
namespace IdlLint

/-- What is wrong at the place where a text stops being a document. -/
inductive Problem where
  /-- No token starts with this character. -/
  | character (c : Char)
  /-- A token, or with `none` the end of the text, stands where only `expected` can. -/
  | token (found : Option (List Char)) (expected : List Terminal)
deriving DecidableEq, Repr, Inhabited

structure ParseError where
  position : Position
  problem : Problem
deriving DecidableEq, Repr, Inhabited

namespace Problem

/-- Drops what is equal to its left neighbour. -/
def dedup : List String → List String
  | a :: b :: rest => if a = b then dedup (b :: rest) else a :: dedup (b :: rest)
  | short => short

/-- The names of the expected terminals, sorted and each named once. -/
def names (expected : List Terminal) : List String :=
  dedup ((expected.map Terminal.name).mergeSort fun a b => decide (a ≤ b))

/-- More alternatives than this are not listed. -/
def mostNames : Nat := 3

def message : Problem → String
  | .character c => "unexpected character " ++ Text.quoted [c]
  | .token found expected =>
    let shown := match found with
      | some text => Text.quoted text
      | none => "end of file"
    let listed := names expected
    if listed.isEmpty || mostNames < listed.length then "unexpected " ++ shown
    else "expected " ++ " or ".intercalate listed ++ ", found " ++ shown

end Problem

namespace ParseError

/-- The error as it is shown for a document called `name`. -/
def render (name : String) (e : ParseError) : String :=
  name ++ ":" ++ toString e.position.line ++ ":" ++ toString e.position.column ++ ": " ++
    e.problem.message

end ParseError

namespace Derivation

/-- The terminals that an error lists when no token of the grammar's choice stands at a place: the
end of the text is not among them, and identifiers stand for all keywords. -/
def listed (expected : List Terminal) : List Terminal :=
  expected.filter fun terminal => terminal != .endOfFile && Lexeme.sought expected terminal

/-- The error where none of the terminals `expected` begins `text`, whose first character is `c`. -/
def stuck (expected : List Terminal) (position : Position) (c : Char) (text : List Char) :
    ParseError :=
  match Lexeme.next Terminal.priority text with
  | some (_, lexeme) => ⟨position, .token (some lexeme) (listed expected)⟩
  | none => ⟨position, .character c⟩

/-- Ends the text. The error, if any, is reported at the start of the last token. -/
def finish (m : Machine) (last : Position) : Except ParseError Tree :=
  match m.feed ⟨.endOfFile, [], last⟩ with
  | .accepted tree => .ok tree
  | .rejected expected => .error ⟨last, .token none expected⟩
  | .shifted _ => .error ⟨last, .token none m.expected⟩

/-- Reads `text`, whose first `skip` characters belong to what was read before. `position` is the
place of the first character, and `last` the start of the last token. -/
def read (m : Machine) (last position : Position) : Nat → List Char → Except ParseError Tree
  | _, [] => finish m last
  | skip + 1, c :: rest => read m last (position.next c) skip rest
  | 0, c :: rest =>
    match Lexeme.blank (c :: rest) with
    | some lexeme => read m last (position.next c) (lexeme.length - 1) rest
    | none =>
      match Lexeme.next m.expected (c :: rest) with
      | none => .error (stuck m.expected position c (c :: rest))
      | some (terminal, lexeme) =>
        match m.feed ⟨terminal, lexeme, position⟩ with
        | .shifted m' => read m' position (position.next c) (lexeme.length - 1) rest
        | .accepted tree => .ok tree
        | .rejected expected => .error ⟨position, .token (some lexeme) expected⟩

end Derivation

/-- The derivation tree of a text. -/
def Tree.ofText (text : List Char) : Except ParseError Tree :=
  Derivation.read .initial .origin .origin 0 text

end IdlLint
