import IdlLint.Grammar.Machine
import Mathlib.Data.List.Forall2
import Mathlib.Data.List.Infix

/-! Derivations of the grammar, and what its tables say about them. Which alternative applies, whether
an optional element is there and whether a rule has ended is always decided by the next terminal. -/
namespace IdlLint

namespace Element

/-- Whether an element may be represented by `count` trees. -/
def allows (e : Element) (count : Nat) : Bool :=
  match e.repetition with
  | .once => count == 1
  | .optional => count ≤ 1
  | .many => true

end Element

/-- A tree is derived from a symbol: a token from its terminal, and a node from its rule, if its slots
follow one of the rule's alternatives. -/
inductive Derives : Symbol → Tree → Prop where
  | leaf (token : Token) : Derives (.terminal token.terminal) (.leaf token)
  | node {rule : Rule} {start : Position} {alternative : List Element} {slots : List (List Tree)}
      (chosen : alternative ∈ rule.alternatives)
      (count : alternative.length = slots.length)
      (allowed : ∀ pair ∈ alternative.zip slots, pair.1.allows pair.2.length = true)
      (derived : ∀ pair ∈ alternative.zip slots, ∀ tree ∈ pair.2, Derives pair.1.symbol tree) :
      Derives (.rule rule) (.node rule start slots)

/-- What is in a slot can stand for an element, if `P` tells what can stand for a symbol. -/
def Fits {α : Type} (P : Symbol → α → Prop) (e : Element) (slot : List α) : Prop :=
  e.allows slot.length = true ∧ ∀ tree ∈ slot, P e.symbol tree

/-- Where a node with these tokens starts. -/
def Rule.startOf (rule : Rule) (tokens : List Token) : Position :=
  match rule, tokens with
  | .document, _ | _, [] => .origin
  | _, token :: _ => token.position

theorem Rule.startOf_cons {rule : Rule} (other : rule ≠ .document) (token : Token)
    (rest : List Token) : rule.startOf (token :: rest) = token.position := by
  cases rule with
  | document => exact absurd rfl other
  | _ => rfl

/-- Every node starts where its first token does, and the document at the first character. -/
inductive Placed : Tree → Prop where
  | leaf (token : Token) : Placed (.leaf token)
  | node {rule : Rule} {slots : List (List Tree)}
      (below : ∀ slot ∈ slots, ∀ tree ∈ slot, Placed tree) :
      Placed (.node rule (rule.startOf (Tree.slotTokens slots)) slots)

/-- A derivation with its nodes in their places. -/
def Grown (symbol : Symbol) (tree : Tree) : Prop :=
  Derives symbol tree ∧ Placed tree

private theorem derives_terminal_iff {terminal : Terminal} {tree : Tree} :
    Derives (.terminal terminal) tree ↔ ∃ token, tree = .leaf token ∧ token.terminal = terminal := by
  constructor
  · intro derived
    cases derived with
    | leaf token => exact ⟨token, rfl, rfl⟩
  · rintro ⟨token, rfl, rfl⟩
    exact .leaf token

theorem derives_rule_iff {rule : Rule} {tree : Tree} :
    Derives (.rule rule) tree ↔ ∃ start slots, tree = .node rule start slots ∧
      ∃ alternative ∈ rule.alternatives, List.Forall₂ (Fits Derives) alternative slots := by
  constructor
  · intro derived
    cases derived with
    | node chosen count allowed derived =>
      refine ⟨_, _, rfl, _, chosen, List.forall₂_iff_zip.mpr ⟨count, ?_⟩⟩
      intro e slot pair
      exact ⟨allowed _ pair, derived _ pair⟩
  · rintro ⟨start, slots, rfl, alternative, chosen, fits⟩
    obtain ⟨count, each⟩ := List.forall₂_iff_zip.mp fits
    exact .node chosen count (fun _ pair => (each pair).1) fun _ pair => (each pair).2

private theorem forall₂_grown_iff {elements : List Element} {slots : List (List Tree)} :
    List.Forall₂ (Fits Grown) elements slots ↔
      List.Forall₂ (Fits Derives) elements slots ∧ ∀ slot ∈ slots, ∀ tree ∈ slot, Placed tree := by
  constructor
  · intro fits
    induction fits with
    | nil => exact ⟨.nil, fun _ member => absurd member List.not_mem_nil⟩
    | cons fit _ ih =>
      refine ⟨.cons ⟨fit.1, fun tree member => (fit.2 tree member).1⟩ ih.1, ?_⟩
      exact List.forall_mem_cons.mpr ⟨fun tree member => (fit.2 tree member).2, ih.2⟩
  · rintro ⟨fits, placed⟩
    induction fits with
    | nil => exact .nil
    | cons fit _ ih =>
      obtain ⟨here, later⟩ := List.forall_mem_cons.mp placed
      exact .cons ⟨fit.1, fun tree member => ⟨fit.2 tree member, here tree member⟩⟩ (ih later)

theorem grown_terminal_iff {terminal : Terminal} {tree : Tree} :
    Grown (.terminal terminal) tree ↔ ∃ token, tree = .leaf token ∧ token.terminal = terminal := by
  refine ⟨fun grown => derives_terminal_iff.mp grown.1, ?_⟩
  rintro ⟨token, rfl, rfl⟩
  exact ⟨.leaf token, .leaf token⟩

theorem grown_rule_iff {rule : Rule} {tree : Tree} :
    Grown (.rule rule) tree ↔
      ∃ slots, tree = .node rule (rule.startOf (Tree.slotTokens slots)) slots ∧
        ∃ alternative ∈ rule.alternatives, List.Forall₂ (Fits Grown) alternative slots := by
  constructor
  · rintro ⟨derived, placed⟩
    obtain ⟨start, slots, rfl, alternative, chosen, fits⟩ := derives_rule_iff.mp derived
    cases placed with
    | node below =>
      exact ⟨slots, rfl, alternative, chosen, forall₂_grown_iff.mpr ⟨fits, below⟩⟩
  · rintro ⟨slots, rfl, alternative, chosen, fits⟩
    obtain ⟨derived, placed⟩ := forall₂_grown_iff.mp fits
    exact ⟨derives_rule_iff.mpr ⟨_, _, rfl, alternative, chosen, derived⟩, .node placed⟩

/-! ### Derivations can be checked -/

namespace Tree

mutual

/-- Whether the tree is derived from the symbol. -/
def isDerived : Symbol → Tree → Bool
  | .terminal terminal, .leaf token => token.terminal == terminal
  | .rule rule, .node rule' _ slots =>
    rule == rule' && rule.alternatives.any fun alternative => isDerivedSlots alternative slots
  | _, _ => false

def isDerivedSlots : List Element → List (List Tree) → Bool
  | [], [] => true
  | e :: elements, slot :: slots =>
    e.allows slot.length && isDerivedForest e.symbol slot && isDerivedSlots elements slots
  | _, _ => false

def isDerivedForest : Symbol → List Tree → Bool
  | _, [] => true
  | symbol, tree :: rest => isDerived symbol tree && isDerivedForest symbol rest

end

mutual

theorem isDerived_iff : ∀ (symbol : Symbol) (tree : Tree),
    tree.isDerived symbol = true ↔ Derives symbol tree
  | .terminal terminal, .leaf token => by
    simp [isDerived, derives_terminal_iff]
  | .rule rule, .node rule' start slots => by
    have each := fun alternative => isDerivedSlots_iff alternative slots
    simp only [isDerived, Bool.and_eq_true, beq_iff_eq, List.any_eq_true, each, derives_rule_iff]
    constructor
    · rintro ⟨rfl, fits⟩
      exact ⟨start, slots, rfl, fits⟩
    · rintro ⟨_, _, same, fits⟩
      cases same
      exact ⟨rfl, fits⟩
  | .terminal terminal, .node rule start slots => by
    simp [isDerived, derives_terminal_iff]
  | .rule rule, .leaf token => by
    simp [isDerived, derives_rule_iff]

theorem isDerivedSlots_iff : ∀ (elements : List Element) (slots : List (List Tree)),
    isDerivedSlots elements slots = true ↔ List.Forall₂ (Fits Derives) elements slots
  | [], [] => by simp [isDerivedSlots]
  | e :: elements, slot :: slots => by
    simp [isDerivedSlots, Fits, isDerivedForest_iff e.symbol slot,
      isDerivedSlots_iff elements slots]
  | [], slot :: slots => by simp [isDerivedSlots]
  | e :: elements, [] => by simp [isDerivedSlots]

theorem isDerivedForest_iff : ∀ (symbol : Symbol) (trees : List Tree),
    isDerivedForest symbol trees = true ↔ ∀ tree ∈ trees, Derives symbol tree
  | symbol, [] => by simp [isDerivedForest]
  | symbol, tree :: rest => by
    simp [isDerivedForest, isDerived_iff symbol tree, isDerivedForest_iff symbol rest]

end

end Tree

instance (symbol : Symbol) (tree : Tree) : Decidable (Derives symbol tree) :=
  decidable_of_iff _ (Tree.isDerived_iff symbol tree)

/-! ### The tables -/

namespace Element

/-- The symbols that can be the first one of a sequence to stand. -/
def leading : List Element → List Symbol
  | [] => []
  | e :: rest => e.symbol :: if e.isOptional then leading rest else []

/-- What may be left out begins with other terminals than what comes after it. -/
def isApart : List Element → Bool
  | e :: rest => !e.isOptional || e.symbol.first.all fun t => !(firstOf rest).contains t
  | [] => true

end Element

namespace Rule

/-- What may be left out at the end of a rule begins with other terminals than what follows the
rule. -/
def endsApart (rule : Rule) (elements : List Element) : Bool :=
  !Element.allOptional elements || (Element.firstOf elements).all fun t => !rule.follow.contains t

/-- What can come after an element is known to follow its rule. -/
def isFollowed (rule : Rule) : List Element → Bool
  | ⟨repetition, .rule inner⟩ :: rest =>
    (Element.firstOf rest).all inner.follow.contains &&
      (repetition != .many || inner.first.all inner.follow.contains) &&
      (!Element.allOptional rest || rule.follow.all inner.follow.contains)
  | _ => true

/-- How many rules can begin with one another from this one on. -/
def height : Rule → Nat
  | .document | .function | .field | .element | .entry => 3
  | .item | .result | .fieldId | .value => 2
  | _ => 1

end Rule

def Symbol.height : Symbol → Nat
  | .terminal _ => 0
  | .rule r => r.height

namespace Rule

private theorem tails_checked (rule : Rule) : ∀ alternative ∈ rule.alternatives,
    ∀ elements ∈ alternative.tails, (Element.isApart elements && rule.endsApart elements &&
      rule.isFollowed elements) = true := by
  cases rule <;> decide

/-- The first terminals of a rule are those of its alternatives. -/
theorem mem_first_iff (rule : Rule) (terminal : Terminal) : terminal ∈ rule.first ↔
    ∃ alternative ∈ rule.alternatives, terminal ∈ Element.firstOf alternative := by
  have listed : ∀ alternative ∈ rule.alternatives, ∀ t ∈ Element.firstOf alternative,
      t ∈ rule.first := by
    cases rule <;> decide
  have covered : ∀ t ∈ rule.first, ∃ alternative ∈ rule.alternatives,
      t ∈ Element.firstOf alternative := by
    cases rule <;> decide
  constructor
  · exact covered terminal
  · rintro ⟨alternative, chosen, member⟩
    exact listed alternative chosen terminal member

/-- The alternatives of a rule begin with different terminals. -/
theorem alternatives_apart (rule : Rule) : ∀ one ∈ rule.alternatives, ∀ two ∈ rule.alternatives,
    one = two ∨ ∀ terminal ∈ Element.firstOf one, terminal ∉ Element.firstOf two := by
  cases rule <;> decide

/-- The end of the text is no part of a rule. -/
theorem endOfFile_not_mem_firstOf (rule : Rule) : ∀ alternative ∈ rule.alternatives,
    ∀ elements ∈ alternative.tails, .endOfFile ∉ Element.firstOf elements := by
  cases rule <;> decide

/-- The document stands inside no rule. -/
theorem symbol_ne_document (rule : Rule) : ∀ alternative ∈ rule.alternatives,
    ∀ e ∈ alternative, e.symbol ≠ .rule .document := by
  cases rule <;> decide

/-- Only the document can be empty. -/
theorem allOptional_eq_false {rule : Rule} (other : rule ≠ .document) :
    ∀ alternative ∈ rule.alternatives, Element.allOptional alternative = false := by
  revert other
  cases rule <;> decide

theorem height_leading (rule : Rule) : ∀ alternative ∈ rule.alternatives,
    ∀ symbol ∈ Element.leading alternative, symbol.height < rule.height := by
  cases rule <;> decide

theorem height_pos (rule : Rule) : 0 < rule.height := by
  cases rule <;> decide

private theorem height_le_depth (rule : Rule) : rule.height ≤ Machine.depth := by
  cases rule <;> decide

/-- The elements are the end of one of the rule's alternatives. -/
def HasTail (rule : Rule) (elements : List Element) : Prop :=
  ∃ alternative ∈ rule.alternatives, elements <:+ alternative

namespace HasTail

variable {rule : Rule} {e : Element} {rest : List Element}

theorem tail (known : rule.HasTail (e :: rest)) : rule.HasTail rest := by
  obtain ⟨alternative, chosen, part⟩ := known
  exact ⟨alternative, chosen, (List.suffix_cons e rest).trans part⟩

theorem symbol_ne (known : rule.HasTail (e :: rest)) : e.symbol ≠ .rule .document := by
  obtain ⟨alternative, chosen, part⟩ := known
  exact rule.symbol_ne_document alternative chosen e (part.subset (List.mem_cons_self ..))

theorem endOfFile_not_mem {elements : List Element} (known : rule.HasTail elements) :
    .endOfFile ∉ Element.firstOf elements := by
  obtain ⟨alternative, chosen, part⟩ := known
  exact rule.endOfFile_not_mem_firstOf alternative chosen elements
    ((List.mem_tails _ _).mpr part)

private theorem checked {elements : List Element} (known : rule.HasTail elements) :
    Element.isApart elements = true ∧ rule.endsApart elements = true ∧
      rule.isFollowed elements = true := by
  obtain ⟨alternative, chosen, part⟩ := known
  have all := rule.tails_checked alternative chosen elements ((List.mem_tails _ _).mpr part)
  simpa [and_assoc] using all

theorem apart (known : rule.HasTail (e :: rest)) (optional : e.isOptional = true)
    {terminal : Terminal} (here : terminal ∈ e.symbol.first) :
    terminal ∉ Element.firstOf rest := by
  have checked := known.checked.1
  simp only [Element.isApart, optional, Bool.not_true, Bool.false_or, List.all_eq_true] at checked
  simpa using checked terminal here

theorem ends {elements : List Element} (known : rule.HasTail elements)
    (optional : Element.allOptional elements = true) {terminal : Terminal}
    (after : terminal ∈ rule.follow) : terminal ∉ Element.firstOf elements := by
  have checked := known.checked.2.1
  simp only [Rule.endsApart, optional, Bool.not_true, Bool.false_or, List.all_eq_true] at checked
  intro here
  simpa [after] using checked terminal here

/-- What comes after a rule inside another one is known to follow it. -/
theorem follows (known : rule.HasTail (e :: rest)) {inner : Rule} (same : e.symbol = .rule inner) :
    (∀ terminal ∈ Element.firstOf rest, terminal ∈ inner.follow) ∧
      (e.repetition = .many → ∀ terminal ∈ inner.first, terminal ∈ inner.follow) ∧
      (Element.allOptional rest = true → ∀ terminal ∈ rule.follow, terminal ∈ inner.follow) := by
  have checked := known.checked.2.2
  obtain ⟨repetition, symbol⟩ := e
  obtain rfl : symbol = .rule inner := same
  simp only [Rule.isFollowed, Bool.and_eq_true, bne_iff_ne, Bool.or_eq_true, List.all_eq_true,
    List.contains_iff_mem, Bool.not_eq_true'] at checked
  obtain ⟨⟨next, again⟩, last⟩ := checked
  refine ⟨next, fun many => ?_, fun optional => ?_⟩
  · exact again.resolve_left fun once => once many
  · exact last.resolve_left (by simp [optional])

end HasTail

end Rule

theorem Symbol.height_le_depth : ∀ symbol : Symbol, symbol.height ≤ Machine.depth
  | .terminal _ => Nat.zero_le _
  | .rule r => r.height_le_depth

/-! ### First tokens -/

/-- A tree has tokens, and the first of them is one of `terminals`. -/
def Tree.StartsIn (tree : Tree) (terminals : List Terminal) : Prop :=
  ∃ token rest, tree.tokens = token :: rest ∧ token.terminal ∈ terminals

/-- If the trees of all slots have tokens, then there are none at all, because every slot is empty, or
the first one is a first terminal of the elements. -/
theorem slotTokens_cases {elements : List Element} {slots : List (List Tree)}
    (fits : List.Forall₂ (Fits fun symbol tree => tree.StartsIn symbol.first) elements slots) :
    (Element.allOptional elements = true ∧ slots = elements.map fun _ => []) ∨
      ∃ token rest, Tree.slotTokens slots = token :: rest ∧
        token.terminal ∈ Element.firstOf elements := by
  induction fits with
  | nil => exact .inl ⟨rfl, rfl⟩
  | @cons e slot elements slots fit fits ih =>
    obtain ⟨allowed, starts⟩ := fit
    cases slot with
    | nil =>
      have optional : e.isOptional = true := by
        cases repetition : e.repetition <;>
          simp [Element.isOptional, Element.allows, repetition] at allowed ⊢
      rcases ih with ⟨all, empty⟩ | ⟨token, rest, same, member⟩
      · refine .inl ⟨?_, by rw [empty]; rfl⟩
        simpa [Element.allOptional, optional] using all
      · refine .inr ⟨token, rest, same, ?_⟩
        simp [Element.firstOf, optional, member]
    | cons tree trees =>
      obtain ⟨token, rest, same, member⟩ := starts tree (List.mem_cons_self ..)
      refine .inr ⟨token, rest ++ Tree.forestTokens trees ++ Tree.slotTokens slots, ?_, ?_⟩
      · simp [Tree.slotTokens, Tree.forestTokens, same]
      · unfold Element.firstOf
        split
        · exact List.mem_append_left _ member
        · exact member

/-- A derivation begins with a first terminal of its symbol. Only a document can be empty. -/
theorem Derives.startsIn {symbol : Symbol} {tree : Tree} (derived : Derives symbol tree)
    (other : symbol ≠ .rule .document) : tree.StartsIn symbol.first := by
  induction derived with
  | leaf token => exact ⟨token, [], rfl, List.mem_singleton.mpr rfl⟩
  | @node rule start alternative slots chosen count allowed derived ih =>
    have notDocument : rule ≠ .document := fun same => other (congrArg _ same)
    have fits : List.Forall₂ (Fits fun symbol tree => tree.StartsIn symbol.first)
        alternative slots := by
      refine List.forall₂_iff_zip.mpr ⟨count, ?_⟩
      intro e slot pair
      refine ⟨allowed _ pair, fun tree member => ih _ pair tree member ?_⟩
      exact rule.symbol_ne_document alternative chosen e (List.of_mem_zip pair).1
    rcases slotTokens_cases fits with ⟨optional, _⟩ | ⟨token, rest, same, member⟩
    · rw [Rule.allOptional_eq_false notDocument alternative chosen] at optional
      cases optional
    · refine ⟨token, rest, same, ?_⟩
      exact (rule.mem_first_iff token.terminal).mpr ⟨alternative, chosen, member⟩

/-- The trees for the end of an alternative either take no token at all or begin with one of its
first terminals. -/
theorem Rule.HasTail.slots_cases {rule : Rule} {elements : List Element} {slots : List (List Tree)}
    (known : rule.HasTail elements) (fits : List.Forall₂ (Fits Grown) elements slots) :
    (Element.allOptional elements = true ∧ slots = elements.map fun _ => []) ∨
      ∃ token rest, Tree.slotTokens slots = token :: rest ∧
        token.terminal ∈ Element.firstOf elements := by
  apply slotTokens_cases
  induction fits with
  | nil => exact .nil
  | cons fit _ ih =>
    refine .cons ⟨fit.1, fun tree member => ?_⟩ (ih known.tail)
    exact (fit.2 tree member).1.startsIn known.symbol_ne

end IdlLint
