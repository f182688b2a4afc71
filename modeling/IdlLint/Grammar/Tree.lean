import IdlLint.Grammar.Lexeme
import IdlLint.Grammar.Rule

/-! Derivation trees. A node holds one slot for each element of the alternative it was built with,
and a slot holds the trees that stand for that element: one, at most one, or any number. -/
namespace IdlLint

inductive Tree where
  | leaf (token : Token)
  | node (rule : Rule) (start : Position) (slots : List (List Tree))
deriving Inhabited

namespace Tree

/-- The symbol that the tree is derived from. -/
def symbol : Tree → Symbol
  | .leaf token => .terminal token.terminal
  | .node rule _ _ => .rule rule

mutual

/-- The tokens at the leaves, from left to right. -/
def tokens : Tree → List Token
  | .leaf token => [token]
  | .node _ _ slots => slotTokens slots

def slotTokens : List (List Tree) → List Token
  | [] => []
  | slot :: rest => forestTokens slot ++ slotTokens rest

def forestTokens : List Tree → List Token
  | [] => []
  | tree :: rest => tree.tokens ++ forestTokens rest

end

end Tree

end IdlLint
