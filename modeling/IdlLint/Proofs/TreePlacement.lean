import IdlLint.Proofs.GrammarDerivation

/-! Trees without their places. A derivation can be moved: whatever other places its tokens are given,
there is a derivation over those tokens that differs from it in nothing else. -/
namespace IdlLint

def Token.relocate (f : Position → Position) (token : Token) : Token :=
  { token with position := f token.position }

/-- The token without its place. -/
def Token.unplaced (token : Token) : Token :=
  token.relocate fun _ => .nowhere

namespace Tree

mutual

/-- The tree with a map applied to the places of its tokens and nodes. -/
def relocate (f : Position → Position) : Tree → Tree
  | .leaf token => .leaf (token.relocate f)
  | .node rule start slots => .node rule (f start) (relocateSlots f slots)

def relocateSlots (f : Position → Position) : List (List Tree) → List (List Tree)
  | [] => []
  | slot :: rest => relocateForest f slot :: relocateSlots f rest

def relocateForest (f : Position → Position) : List Tree → List Tree
  | [] => []
  | tree :: rest => tree.relocate f :: relocateForest f rest

end

/-- The tree without the places of its tokens and nodes. -/
def unplaced (tree : Tree) : Tree :=
  tree.relocate fun _ => .nowhere

end Tree

/-- Trees of the symbol with any tokens that differ from those of `tree` in their places only. -/
def Movable (symbol : Symbol) (tree : Tree) : Prop :=
  ∀ placed : List Token, placed.map Token.unplaced = tree.tokens.map Token.unplaced →
    ∃ moved, Grown symbol moved ∧ moved.tokens = placed ∧ moved.unplaced = tree.unplaced

private theorem forest_movable {symbol : Symbol} {slot : List Tree}
    (movable : ∀ tree ∈ slot, Movable symbol tree) {placed : List Token}
    (same : placed.map Token.unplaced = (Tree.forestTokens slot).map Token.unplaced) :
    ∃ moved : List Tree, moved.length = slot.length ∧ (∀ tree ∈ moved, Grown symbol tree) ∧
      Tree.forestTokens moved = placed ∧
      Tree.relocateForest (fun _ => .nowhere) moved =
        Tree.relocateForest (fun _ => .nowhere) slot := by
  induction slot generalizing placed with
  | nil =>
    obtain rfl : placed = [] := List.map_eq_nil_iff.mp same
    exact ⟨[], rfl, fun _ member => absurd member List.not_mem_nil, rfl, rfl⟩
  | cons tree slot ih =>
    obtain ⟨here, later⟩ := List.forall_mem_cons.mp movable
    rw [Tree.forestTokens, List.map_append] at same
    obtain ⟨front, back, rfl, frontEq, backEq⟩ := List.map_eq_append_iff.mp same
    obtain ⟨first, grown, rfl, alike⟩ := here front frontEq
    obtain ⟨rest, count, all, rfl, others⟩ := ih later backEq
    refine ⟨first :: rest, by simp [count], List.forall_mem_cons.mpr ⟨grown, all⟩, rfl, ?_⟩
    rw [Tree.relocateForest, Tree.relocateForest, others]
    exact congrArg (· :: _) alike

theorem slots_movable {elements : List Element} {slots : List (List Tree)}
    (fits : List.Forall₂ (Fits Movable) elements slots) {placed : List Token}
    (same : placed.map Token.unplaced = (Tree.slotTokens slots).map Token.unplaced) :
    ∃ moved, List.Forall₂ (Fits Grown) elements moved ∧ Tree.slotTokens moved = placed ∧
      Tree.relocateSlots (fun _ => .nowhere) moved = Tree.relocateSlots (fun _ => .nowhere) slots := by
  induction fits generalizing placed with
  | nil =>
    obtain rfl : placed = [] := List.map_eq_nil_iff.mp same
    exact ⟨[], .nil, rfl, rfl⟩
  | cons fit _ ih =>
    rw [Tree.slotTokens, List.map_append] at same
    obtain ⟨front, back, rfl, frontEq, backEq⟩ := List.map_eq_append_iff.mp same
    obtain ⟨first, count, grown, rfl, alike⟩ := forest_movable fit.2 frontEq
    obtain ⟨rest, fits, rfl, others⟩ := ih backEq
    refine ⟨first :: rest, .cons ⟨count ▸ fit.1, grown⟩ fits, rfl, ?_⟩
    rw [Tree.relocateSlots, Tree.relocateSlots, alike, others]

theorem Derives.movable {symbol : Symbol} {tree : Tree} (derived : Derives symbol tree) :
    Movable symbol tree := by
  induction derived with
  | leaf token =>
    intro placed same
    obtain ⟨token', rfl, alike⟩ : ∃ token', placed = [token'] ∧ token'.unplaced = token.unplaced := by
      simpa [Tree.tokens, List.map_eq_cons_iff] using same
    refine ⟨.leaf token', grown_terminal_iff.mpr ⟨token', rfl, ?_⟩, rfl, ?_⟩
    · change token'.unplaced.terminal = token.unplaced.terminal
      rw [alike]
    · exact congrArg Tree.leaf alike
  | @node rule start alternative slots chosen count allowed derived ih =>
    intro placed same
    have fits : List.Forall₂ (Fits Movable) alternative slots :=
      List.forall₂_iff_zip.mpr ⟨count, fun pair => ⟨allowed _ pair, ih _ pair⟩⟩
    obtain ⟨moved, grown, rfl, alike⟩ := slots_movable fits same
    refine ⟨.node rule (rule.startOf (Tree.slotTokens moved)) moved, ?_, rfl, ?_⟩
    · exact grown_rule_iff.mpr ⟨moved, rfl, alternative, chosen, grown⟩
    · exact congrArg (Tree.node rule .nowhere) alike

end IdlLint
