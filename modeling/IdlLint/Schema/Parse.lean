import IdlLint.Grammar.Derivation
import IdlLint.Schema.OfTree

/-! From texts to documents. -/
namespace IdlLint.Schema

/-- Why a text is not read as a document. -/
inductive ParseFailure where
  | rejected (error : ParseError)
  /-- The text is in the language, but a decimal literal has too many digits. -/
  | excessiveDigits (count : Nat)
deriving DecidableEq, Repr, Inhabited

/-- What is said of a decimal literal with `count` digits. -/
def excessMessage (count : Nat) : String :=
  "Error trying to process rule \"int_value\":\n\n" ++ unreadableMessage count

/-- Reads a document. A text that is not in the language is rejected before literals are looked
at; of several literals that are too long the first counts. -/
def parse (text : List Char) : Except ParseFailure Document :=
  match Tree.ofText text with
  | .error e => .error (.rejected e)
  | .ok tree =>
    match tree.tokens.findSome? Literal.excess? with
    | some count => .error (.excessiveDigits count)
    | none => .ok (Document.ofTree tree)

end IdlLint.Schema
