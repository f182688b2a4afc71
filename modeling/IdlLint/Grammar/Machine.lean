import IdlLint.Grammar.Tree

/-! A predictive stack machine for the grammar. The machine holds the rules that are still open and
says at every moment which terminals it can take next, so that reading a token can depend on it.

A terminal counts as possible after a finished rule as soon as it can follow that rule anywhere in
a document. The machine may therefore close several rules before it finds that a token does not
fit, and the terminals it then lists are those of the rule it has come back to. -/
namespace IdlLint

/-- A rule that is being read. -/
structure Frame where
  rule : Rule
  /-- Where the rule begins. -/
  start : Position
  /-- The slots of the elements already passed, last first. -/
  passed : List (List Tree)
  /-- The trees found so far for the element at the head of `rest`, last first. -/
  current : List Tree
  /-- The elements still to come. -/
  rest : List Element
deriving Inhabited

namespace Frame

/-- The terminals that can come next. -/
def expected (f : Frame) : List Terminal :=
  if Element.allOptional f.rest then Element.firstOf f.rest ++ f.rule.follow
  else Element.firstOf f.rest

/-- Whether the rule can end before `terminal`. -/
def endsBefore (f : Frame) (terminal : Terminal) : Bool :=
  Element.allOptional f.rest && f.rule.follow.contains terminal

/-- Passes over the leading elements, which have to be optional, up to one that `terminal` can
begin. Gives the frame that waits for that element, and the element's symbol. -/
def seek (rule : Rule) (start : Position) (terminal : Terminal) :
    List (List Tree) → List Tree → List Element → Option (Frame × Symbol)
  | _, _, [] => none
  | passed, current, e :: rest =>
    if e.symbol.first.contains terminal then
      some (⟨rule, start, passed, current, e :: rest⟩, e.symbol)
    else if e.isOptional then seek rule start terminal (current.reverse :: passed) [] rest
    else none

/-- The frame made ready for `terminal`, and the symbol that `terminal` begins. -/
def ready (f : Frame) (terminal : Terminal) : Option (Frame × Symbol) :=
  seek f.rule f.start terminal f.passed f.current f.rest

/-- A new frame for `rule`, ready for its first token. -/
def enter (rule : Rule) (token : Token) : Option (Frame × Symbol) :=
  rule.alternatives.findSome? (seek rule token.position token.terminal [] [])

/-- Adds a tree for the element that the frame waits for. -/
def plug (f : Frame) (tree : Tree) : Frame :=
  match f.rest with
  | [] => f
  | e :: rest =>
    match e.repetition with
    | .many => { f with current := tree :: f.current }
    | _ => { f with passed := [tree] :: f.passed, current := [], rest := rest }

/-- The slots of the rule when nothing more is to come. -/
def slots (f : Frame) : List (List Tree) :=
  match f.rest with
  | [] => f.passed.reverse
  | _ :: rest => f.passed.reverse ++ f.current.reverse :: rest.map fun _ => []

/-- The tree of the rule when nothing more is to come. -/
def close (f : Frame) : Tree :=
  .node f.rule f.start f.slots

end Frame

/-- The open rules, innermost first. -/
structure Machine where
  top : Frame
  below : List Frame
deriving Inhabited

/-- What a token does to the machine. -/
inductive Step where
  | shifted (machine : Machine)
  | accepted (tree : Tree)
  | rejected (expected : List Terminal)
deriving Inhabited

namespace Machine

/-- The machine before the first token. -/
def initial : Machine :=
  ⟨⟨.document, .origin, [], [], [Element.many .item]⟩, []⟩

/-- The terminals that the machine can take next. -/
def expected (m : Machine) : List Terminal :=
  m.top.expected

/-- No chain of rules that begin with one another is longer. -/
def depth : Nat := 6

/-- Takes a token that `symbol` can begin. The top frame waits for the symbol, and the rules that
begin with the token are opened above it. -/
def descend (token : Token) : Nat → Symbol → Machine → Machine
  | _, .terminal _, m => { m with top := m.top.plug (.leaf token) }
  | 0, .rule _, m => m
  | fuel + 1, .rule rule, m =>
    match Frame.enter rule token with
    | some (f, symbol) => descend token fuel symbol ⟨f, m.top :: m.below⟩
    | none => m

/-- Gives a token to the innermost open rule after closing the rules that end before it. -/
def feedFrame (token : Token) (top : Frame) (below : List Frame) : Step :=
  match top.ready token.terminal with
  | some (f, symbol) => .shifted (descend token depth symbol ⟨f, below⟩)
  | none =>
    if top.endsBefore token.terminal then
      match below with
      | [] => .accepted top.close
      | f :: rest => feedFrame token (f.plug top.close) rest
    else .rejected top.expected

def feed (m : Machine) (token : Token) : Step :=
  feedFrame token m.top m.below

end Machine

end IdlLint
