import IdlLint.Proofs.GrammarDerivation

/-! What the stack machine is still waiting for. A frame, and a machine, is related to the tokens that
are to come and to the tree that it will have read then. Taking a token leads from one machine to
another that waits for the rest, so that both directions of the relation carry over to whole runs. -/
namespace IdlLint

/-- `tokens` supply what is missing of `elements` after the trees `current` of the first of them, which
are held last first. Then `slots` stand for the elements. -/
def Fills : List Element → List Tree → List Token → List (List Tree) → Prop
  | [], _, tokens, slots => tokens = [] ∧ slots = []
  | e :: rest, current, tokens, slots => ∃ more ahead, slots = (current.reverse ++ more) :: ahead ∧
      tokens = Tree.forestTokens more ++ Tree.slotTokens ahead ∧
      e.allows (current.length + more.length) = true ∧ (∀ tree ∈ more, Grown e.symbol tree) ∧
      List.Forall₂ (Fits Grown) rest ahead

private theorem Tree.slotTokens_map_nil (elements : List Element) :
    Tree.slotTokens (elements.map fun _ => []) = [] := by
  induction elements with
  | nil => rfl
  | cons e rest ih => simpa [Tree.slotTokens, Tree.forestTokens] using ih

theorem fills_nil_iff {elements : List Element} {tokens : List Token} {slots : List (List Tree)} :
    Fills elements [] tokens slots ↔
      List.Forall₂ (Fits Grown) elements slots ∧ tokens = Tree.slotTokens slots := by
  cases elements with
  | nil =>
    constructor
    · rintro ⟨rfl, rfl⟩
      exact ⟨.nil, rfl⟩
    · rintro ⟨fits, rfl⟩
      cases fits
      exact ⟨rfl, rfl⟩
  | cons e rest =>
    constructor
    · rintro ⟨more, ahead, rfl, rfl, allowed, grown, fits⟩
      refine ⟨.cons ⟨by simpa using allowed, grown⟩ fits, rfl⟩
    · rintro ⟨fits, rfl⟩
      cases fits with
      | cons fit fits => exact ⟨_, _, rfl, rfl, by simpa using fit.1, fit.2, fits⟩

private theorem forall₂_map_nil {elements : List Element}
    (optional : Element.allOptional elements = true) :
    List.Forall₂ (Fits Grown) elements (elements.map fun _ => []) := by
  induction elements with
  | nil => exact .nil
  | cons e rest ih =>
    obtain ⟨first, others⟩ : e.isOptional = true ∧ Element.allOptional rest = true := by
      simpa [Element.allOptional] using optional
    refine .cons ⟨?_, fun _ member => absurd member List.not_mem_nil⟩ (ih others)
    cases repetition : e.repetition <;> simp_all [Element.allows, Element.isOptional]

/-- Only an element that can be repeated has trees before it is passed. -/
def Single (current : List Tree) (e : Element) : Prop :=
  current = [] ∨ e.repetition = .many

private theorem Single.allows {current : List Tree} {e : Element} (single : Single current e) :
    e.allows current.length = true ↔ e.isOptional = true := by
  rcases single with rfl | many
  · cases repetition : e.repetition <;> simp [Element.allows, Element.isOptional, repetition]
  · simp [Element.allows, Element.isOptional, many]

/-- The first missing token belongs to the first element, or that element has ended. -/
theorem Fills.cases_head {rule : Rule} {e : Element} {rest : List Element} {current : List Tree}
    {tokens : List Token} {slots : List (List Tree)} (known : rule.HasTail (e :: rest))
    (single : Single current e) (fills : Fills (e :: rest) current tokens slots) :
    (∃ ahead, slots = current.reverse :: ahead ∧ e.isOptional = true ∧
      Fills rest [] tokens ahead) ∨
    ∃ tree more ahead token here, slots = (current.reverse ++ tree :: more) :: ahead ∧
      tree.tokens = token :: here ∧ token.terminal ∈ e.symbol.first ∧
      tokens = token :: here ++ (Tree.forestTokens more ++ Tree.slotTokens ahead) ∧
      e.allows (current.length + (more.length + 1)) = true ∧ Grown e.symbol tree ∧
      (∀ tree ∈ more, Grown e.symbol tree) ∧ List.Forall₂ (Fits Grown) rest ahead := by
  obtain ⟨more, ahead, rfl, rfl, allowed, grown, fits⟩ := fills
  cases more with
  | nil =>
    refine .inl ⟨ahead, by simp, single.allows.mp (by simpa using allowed), ?_⟩
    exact fills_nil_iff.mpr ⟨fits, rfl⟩
  | cons tree more =>
    obtain ⟨first, later⟩ := List.forall_mem_cons.mp grown
    obtain ⟨token, here, same, member⟩ := first.1.startsIn known.symbol_ne
    refine .inr ⟨tree, more, ahead, token, here, rfl, same, member, ?_, allowed, first, later, fits⟩
    simp [Tree.forestTokens, same]

theorem Fills.skip {e : Element} {rest : List Element} {current : List Tree}
    {tokens : List Token} {ahead : List (List Tree)} (optional : e.isOptional = true)
    (single : Single current e) (fills : Fills rest [] tokens ahead) :
    Fills (e :: rest) current tokens (current.reverse :: ahead) := by
  obtain ⟨fits, rfl⟩ := fills_nil_iff.mp fills
  exact ⟨[], ahead, by simp, rfl, single.allows.mpr optional,
    fun _ member => absurd member List.not_mem_nil, fits⟩

/-- Either nothing more is to come, or the first missing token can begin what is missing. -/
theorem Fills.cases_tokens {rule : Rule} {elements : List Element} {current : List Tree}
    {tokens : List Token} {slots : List (List Tree)} (known : rule.HasTail elements)
    (single : ∀ e ∈ elements.head?, Single current e) (fills : Fills elements current tokens slots) :
    (tokens = [] ∧ Element.allOptional elements = true) ∨
      ∃ token rest, tokens = token :: rest ∧ token.terminal ∈ Element.firstOf elements := by
  cases elements with
  | nil => exact .inl ⟨fills.1, rfl⟩
  | cons e rest =>
    rcases fills.cases_head known (single e rfl) with
      ⟨ahead, -, optional, later⟩ | ⟨tree, more, ahead, token, here, -, -, member, rfl, -⟩
    · obtain ⟨fits, rfl⟩ := fills_nil_iff.mp later
      rcases known.tail.slots_cases fits with ⟨all, rfl⟩ | ⟨token, others, same, member⟩
      · refine .inl ⟨?_, by simpa [Element.allOptional, optional] using all⟩
        exact Tree.slotTokens_map_nil rest
      · exact .inr ⟨token, others, same, by simp [Element.firstOf, optional, member]⟩
    · refine .inr ⟨token, _, rfl, ?_⟩
      unfold Element.firstOf
      split
      · exact List.mem_append_left _ member
      · exact member

/-! ### Frames -/

namespace Frame

/-- With `tokens` the frame has read its rule, as `tree`. -/
def Finishes (f : Frame) (tokens : List Token) (tree : Tree) : Prop :=
  ∃ slots, tree = .node f.rule f.start (f.passed.reverse ++ slots) ∧
    Fills f.rest f.current tokens slots

/-- The frame has come to an element with this symbol. -/
def Awaits (f : Frame) (symbol : Symbol) : Prop :=
  ∃ e rest, f.rest = e :: rest ∧ e.symbol = symbol

/-- The frame is in the middle of one of its rule's alternatives. -/
structure Coherent (f : Frame) : Prop where
  tail : f.rule.HasTail f.rest
  single : ∀ e ∈ f.rest.head?, Single f.current e

private theorem Finishes.cases_tokens {f : Frame} {tokens : List Token} {tree : Tree}
    (coherent : f.Coherent) (finishes : f.Finishes tokens tree) :
    (tokens = [] ∧ Element.allOptional f.rest = true) ∨
      ∃ token rest, tokens = token :: rest ∧ token.terminal ∈ Element.firstOf f.rest := by
  obtain ⟨slots, -, fills⟩ := finishes
  exact fills.cases_tokens coherent.tail coherent.single

private theorem finishes_nil_iff {f : Frame} {tree : Tree} (coherent : f.Coherent)
    (optional : Element.allOptional f.rest = true) : f.Finishes [] tree ↔ tree = f.close := by
  obtain ⟨rule, start, passed, current, elements⟩ := f
  obtain ⟨tail, single⟩ := coherent
  cases elements with
  | nil =>
    constructor
    · rintro ⟨slots, rfl, -, rfl⟩
      simp [close, slots]
    · rintro rfl
      exact ⟨[], by simp [close, slots], rfl, rfl⟩
  | cons e rest =>
    have head := single e rfl
    obtain ⟨first, others⟩ : e.isOptional = true ∧ Element.allOptional rest = true := by
      simpa [Element.allOptional] using optional
    constructor
    · rintro ⟨slots, rfl, fills⟩
      rcases fills.cases_head tail head with ⟨ahead, rfl, -, later⟩ | ⟨_, _, _, _, _, -, -, -, same, -⟩
      · obtain ⟨fits, empty⟩ := fills_nil_iff.mp later
        rcases tail.tail.slots_cases fits with ⟨-, rfl⟩ | ⟨token, rest, same, -⟩
        · rfl
        · rw [same] at empty
          cases empty
      · cases same
    · rintro rfl
      refine ⟨_, rfl, Fills.skip first head (fills_nil_iff.mpr ⟨forall₂_map_nil others, ?_⟩)⟩
      exact (Tree.slotTokens_map_nil rest).symm

/-- A frame passes over an element that the next token cannot begin. -/
theorem finishes_skip_iff {rule : Rule} {start : Position} {passed : List (List Tree)}
    {current : List Tree} {e : Element} {rest : List Element} {token : Token}
    {tokens : List Token} {tree : Tree} (known : rule.HasTail (e :: rest))
    (single : Single current e) (optional : e.isOptional = true)
    (other : token.terminal ∉ e.symbol.first) :
    Finishes ⟨rule, start, current.reverse :: passed, [], rest⟩ (token :: tokens) tree ↔
      Finishes ⟨rule, start, passed, current, e :: rest⟩ (token :: tokens) tree := by
  constructor
  · rintro ⟨slots, rfl, fills⟩
    exact ⟨_, by simp, Fills.skip optional single fills⟩
  · rintro ⟨slots, rfl, fills⟩
    rcases fills.cases_head known single with
      ⟨ahead, rfl, -, later⟩ | ⟨_, _, _, token, _, -, -, member, same, -⟩
    · exact ⟨ahead, by simp, later⟩
    · obtain ⟨rfl, -⟩ := List.cons.inj same
      exact absurd member other

private theorem seek_eq_none_iff {rule : Rule} {start : Position} {terminal : Terminal}
    {elements : List Element} {passed : List (List Tree)} {current : List Tree} :
    seek rule start terminal passed current elements = none ↔
      terminal ∉ Element.firstOf elements := by
  induction elements generalizing passed current with
  | nil => simp [seek, Element.firstOf]
  | cons e rest ih =>
    by_cases here : terminal ∈ e.symbol.first <;> cases optional : e.isOptional <;>
      simp [seek, Element.firstOf, here, optional, ih]

/-- What a frame is like once it has been made ready for a terminal. -/
theorem seek_some {rule : Rule} {start : Position} {terminal : Terminal}
    {elements : List Element} {passed : List (List Tree)} {current : List Tree} {f : Frame}
    {symbol : Symbol} (coherent : Coherent ⟨rule, start, passed, current, elements⟩)
    (found : seek rule start terminal passed current elements = some (f, symbol)) :
    f.rule = rule ∧ f.Coherent ∧ f.Awaits symbol ∧ terminal ∈ symbol.first ∧
      symbol ∈ Element.leading elements := by
  induction elements generalizing passed current with
  | nil => cases found
  | cons e rest ih =>
    unfold seek at found
    split at found
    · rename_i here
      cases found
      exact ⟨rfl, coherent, ⟨e, rest, rfl, rfl⟩, List.contains_iff_mem.mp here, List.mem_cons_self ..⟩
    · split at found
      · rename_i optional
        obtain ⟨same, ready, awaits, member, leading⟩ :=
          ih ⟨coherent.tail.tail, fun _ _ => .inl rfl⟩ found
        refine ⟨same, ready, awaits, member, ?_⟩
        simp [Element.leading, optional, leading]
      · cases found

private theorem seek_finishes_iff {rule : Rule} {start : Position} {token : Token}
    {elements : List Element} {passed : List (List Tree)} {current : List Tree} {f : Frame}
    {symbol : Symbol} {tokens : List Token} {tree : Tree}
    (coherent : Coherent ⟨rule, start, passed, current, elements⟩)
    (found : seek rule start token.terminal passed current elements = some (f, symbol)) :
    f.Finishes (token :: tokens) tree ↔
      Finishes ⟨rule, start, passed, current, elements⟩ (token :: tokens) tree := by
  induction elements generalizing passed current with
  | nil => cases found
  | cons e rest ih =>
    unfold seek at found
    split at found
    · cases found
      rfl
    · rename_i other
      split at found
      · rename_i optional
        rw [ih ⟨coherent.tail.tail, fun _ _ => .inl rfl⟩ found]
        exact finishes_skip_iff coherent.tail (coherent.single e rfl) optional
          fun member => other (List.contains_iff_mem.mpr member)
      · cases found

private theorem plug_rule (f : Frame) (tree : Tree) : (f.plug tree).rule = f.rule := by
  unfold plug
  split
  · rfl
  · split <;> rfl

theorem Coherent.plug {f : Frame} (coherent : f.Coherent) (tree : Tree) :
    (f.plug tree).Coherent := by
  obtain ⟨rule, start, passed, current, elements⟩ := f
  cases elements with
  | nil => exact coherent
  | cons e rest =>
    cases repetition : e.repetition with
    | many =>
      simp only [Frame.plug, repetition]
      refine ⟨coherent.tail, fun head same => .inr ?_⟩
      obtain rfl : e = head := Option.some.inj same
      exact repetition
    | once | optional =>
      simp only [Frame.plug, repetition]
      exact ⟨coherent.tail.tail, fun _ _ => .inl rfl⟩

/-- Where a token begins the symbol that the frame awaits, there is a tree for that symbol, and the
frame goes on after it. -/
theorem finishes_plug_iff {f : Frame} {symbol : Symbol} {token : Token} {tokens : List Token}
    {tree : Tree} (coherent : f.Coherent) (awaits : f.Awaits symbol)
    (begins : token.terminal ∈ symbol.first) :
    f.Finishes (token :: tokens) tree ↔ ∃ part here later, tokens = here ++ later ∧
      Grown symbol part ∧ part.tokens = token :: here ∧ (f.plug part).Finishes later tree := by
  obtain ⟨rule, start, passed, current, elements⟩ := f
  obtain ⟨e, rest, rfl, rfl⟩ := awaits
  have known : rule.HasTail (e :: rest) := coherent.tail
  have single : Single current e := coherent.single e rfl
  constructor
  · rintro ⟨slots, rfl, fills⟩
    rcases fills.cases_head known single with ⟨ahead, rfl, optional, later⟩ |
      ⟨part, more, ahead, token', here, rfl, same, -, tokensEq, allowed, grown, others, fits⟩
    · -- the token would begin a later element as well
      rcases later.cases_tokens known.tail (fun _ _ => .inl rfl) with
        ⟨none, -⟩ | ⟨token', rest', same, member⟩
      · cases none
      · obtain ⟨rfl, -⟩ := List.cons.inj same
        exact absurd member (known.apart optional begins)
    · obtain ⟨rfl, rfl⟩ := List.cons.inj tokensEq
      refine ⟨part, here, _, rfl, grown, same, ?_⟩
      cases repetition : e.repetition with
      | many =>
        simp only [plug, repetition]
        exact ⟨_, rfl, more, ahead, by simp, rfl, by simp [Element.allows, repetition],
          others, fits⟩
      | once | optional =>
        obtain rfl : current = [] := single.resolve_right (by simp [repetition])
        obtain rfl : more = [] := by
          simpa [Element.allows, repetition] using allowed
        simp only [plug, repetition]
        exact ⟨ahead, by simp, fills_nil_iff.mpr ⟨fits, by simp [Tree.forestTokens]⟩⟩
  · rintro ⟨part, here, later, rfl, grown, same, slots, rfl, fills⟩
    cases repetition : e.repetition with
    | many =>
      simp only [plug, repetition] at fills ⊢
      obtain ⟨more, ahead, rfl, rfl, -, others, fits⟩ := fills
      refine ⟨_, rfl, part :: more, ahead, by simp, by simp [Tree.forestTokens, same],
        by simp [Element.allows, repetition], List.forall_mem_cons.mpr ⟨grown, others⟩, fits⟩
    | once | optional =>
      obtain rfl : current = [] := single.resolve_right (by simp [repetition])
      simp only [plug, repetition] at fills ⊢
      obtain ⟨fits, rfl⟩ := fills_nil_iff.mp fills
      exact ⟨[part] :: slots, by simp, [part], slots, rfl, by simp [Tree.forestTokens, same],
        by simp [Element.allows, repetition], by simpa using grown, fits⟩

private theorem coherent_fresh {rule : Rule} {alternative : List Element} (start : Position)
    (chosen : alternative ∈ rule.alternatives) : Coherent ⟨rule, start, [], [], alternative⟩ :=
  ⟨⟨alternative, chosen, List.suffix_rfl⟩, fun _ _ => .inl rfl⟩

private theorem exists_enter {rule : Rule} {token : Token} (begins : token.terminal ∈ rule.first) :
    ∃ f symbol, enter rule token = some (f, symbol) := by
  cases found : enter rule token with
  | some pair => exact ⟨pair.1, pair.2, rfl⟩
  | none =>
    obtain ⟨alternative, chosen, member⟩ := (rule.mem_first_iff token.terminal).mp begins
    have missed := List.findSome?_eq_none_iff.mp found alternative chosen
    exact absurd member (seek_eq_none_iff.mp missed)

private theorem enter_some {rule : Rule} {token : Token} {f : Frame} {symbol : Symbol}
    (found : enter rule token = some (f, symbol)) :
    f.rule = rule ∧ f.Coherent ∧ f.Awaits symbol ∧ token.terminal ∈ symbol.first ∧
      symbol.height < rule.height := by
  obtain ⟨alternative, chosen, sought⟩ := List.exists_of_findSome?_eq_some found
  obtain ⟨same, coherent, awaits, begins, leading⟩ := seek_some (coherent_fresh _ chosen) sought
  exact ⟨same, coherent, awaits, begins, rule.height_leading alternative chosen symbol leading⟩

/-- A frame that was opened at a token reads exactly the derivations that begin with the token. -/
theorem enter_finishes_iff {rule : Rule} {token : Token} {f : Frame} {symbol : Symbol}
    {tokens : List Token} {tree : Tree} (other : rule ≠ .document)
    (found : enter rule token = some (f, symbol)) :
    f.Finishes (token :: tokens) tree ↔
      Grown (.rule rule) tree ∧ tree.tokens = token :: tokens := by
  obtain ⟨alternative, chosen, sought⟩ := List.exists_of_findSome?_eq_some found
  rw [seek_finishes_iff (coherent_fresh _ chosen) sought]
  constructor
  · rintro ⟨slots, rfl, fills⟩
    obtain ⟨fits, same⟩ := fills_nil_iff.mp fills
    refine ⟨grown_rule_iff.mpr ⟨slots, ?_, alternative, chosen, fits⟩, same.symm⟩
    rw [← same, Rule.startOf_cons other]
    rfl
  · rintro ⟨grown, same⟩
    obtain ⟨slots, rfl, alternative', chosen', fits⟩ := grown_rule_iff.mp grown
    have tokensEq : Tree.slotTokens slots = token :: tokens := same
    have begins : token.terminal ∈ Element.firstOf alternative := by
      by_contra missing
      rw [seek_eq_none_iff.mpr missing] at sought
      cases sought
    have tail : rule.HasTail alternative' := ⟨alternative', chosen', List.suffix_rfl⟩
    rcases tail.slots_cases fits with ⟨-, rfl⟩ | ⟨token', rest, same', begins'⟩
    · rw [Tree.slotTokens_map_nil] at tokensEq
      cases tokensEq
    · obtain ⟨rfl, -⟩ := List.cons.inj (same'.symm.trans tokensEq)
      rcases rule.alternatives_apart alternative chosen alternative' chosen' with rfl | apart
      · refine ⟨slots, ?_, fills_nil_iff.mpr ⟨fits, tokensEq.symm⟩⟩
        rw [tokensEq, Rule.startOf_cons other]
        rfl
      · exact absurd begins' (apart _ begins)

end Frame

/-! ### Machines -/

/-- When the open rules `below` are given `part` for the innermost of them, they have read `tree` after
the tokens. -/
def Resumes : List Frame → Tree → List Token → Tree → Prop
  | [], part, tokens, tree => tokens = [] ∧ tree = part
  | f :: below, part, tokens, tree => ∃ whole here later, tokens = here ++ later ∧
      (f.plug part).Finishes here whole ∧ Resumes below whole later tree

/-- Every open rule is awaited by the one around it, and the outermost one is the document. -/
def Nested : Rule → List Frame → Prop
  | rule, [] => rule = .document
  | rule, f :: below => f.Coherent ∧ f.Awaits (.rule rule) ∧ Nested f.rule below

namespace Machine

structure Coherent (m : Machine) : Prop where
  top : m.top.Coherent
  nested : Nested m.top.rule m.below

/-- With `tokens` the machine has read `tree`. -/
def Completes (m : Machine) (tokens : List Token) (tree : Tree) : Prop :=
  ∃ part here later, tokens = here ++ later ∧ m.top.Finishes here part ∧
    Resumes m.below part later tree

end Machine

/-- What comes after a rule that a frame has just been given is known to follow the rule. -/
theorem Frame.follow_of_plug {f : Frame} {rule : Rule} (coherent : f.Coherent)
    (awaits : f.Awaits (.rule rule)) (part : Tree) :
    (∀ terminal ∈ Element.firstOf (f.plug part).rest, terminal ∈ rule.follow) ∧
      (Element.allOptional (f.plug part).rest = true →
        ∀ terminal ∈ f.rule.follow, terminal ∈ rule.follow) := by
  obtain ⟨outer, start, passed, current, elements⟩ := f
  obtain ⟨e, rest, rfl, same⟩ := awaits
  obtain ⟨next, again, last⟩ := coherent.tail.follows same
  cases repetition : e.repetition with
  | many =>
    simp only [plug, repetition]
    refine ⟨fun terminal member => ?_, fun optional => last ?_⟩
    · have split : terminal ∈ e.symbol.first ∨ terminal ∈ Element.firstOf rest := by
        simpa [Element.firstOf, Element.isOptional, repetition] using member
      rcases split with here | later
      · rw [same] at here
        exact again repetition terminal here
      · exact next terminal later
    · simp only [Element.allOptional, List.all_cons, Bool.and_eq_true] at optional
      exact optional.2
  | once | optional =>
    simp only [plug, repetition]
    exact ⟨next, last⟩

/-- The terminal of the next token, or the end of the text. -/
def nextTerminal (tokens : List Token) : Terminal :=
  (tokens.head?.map Token.terminal).getD .endOfFile

private theorem Resumes.follow {rule : Rule} {below : List Frame} {part tree : Tree}
    {tokens : List Token} (nested : Nested rule below) (resumes : Resumes below part tokens tree) :
    nextTerminal tokens ∈ rule.follow := by
  induction below generalizing rule part tokens with
  | nil =>
    obtain ⟨rfl, -⟩ := resumes
    obtain rfl : rule = .document := nested
    exact List.mem_singleton.mpr rfl
  | cons f below ih =>
    obtain ⟨coherent, awaits, around⟩ := nested
    obtain ⟨whole, here, later, rfl, finishes, resumes⟩ := resumes
    obtain ⟨next, last⟩ := Frame.follow_of_plug coherent awaits part
    rcases finishes.cases_tokens (coherent.plug part) with
      ⟨rfl, optional⟩ | ⟨token, rest, rfl, member⟩
    · exact last optional _ (ih around resumes)
    · exact next _ member

namespace Machine

/-- The next token is part of the innermost open rule. -/
def Takes (m : Machine) (token : Token) (tokens : List Token) (tree : Tree) : Prop :=
  ∃ part here later, tokens = here ++ later ∧ m.top.Finishes (token :: here) part ∧
    Resumes m.below part later tree

private theorem takes_terminal_iff {m : Machine} {token : Token} {tokens : List Token} {tree : Tree}
    (coherent : m.Coherent) (awaits : m.top.Awaits (.terminal token.terminal)) :
    m.Takes token tokens tree ↔
      Completes ⟨m.top.plug (.leaf token), m.below⟩ tokens tree := by
  have finishes : ∀ here part, m.top.Finishes (token :: here) part ↔
      (m.top.plug (.leaf token)).Finishes here part := by
    intro here part
    rw [Frame.finishes_plug_iff coherent.top awaits (List.mem_singleton.mpr rfl)]
    constructor
    · rintro ⟨leaf, front, later, rfl, grown, same, finishes⟩
      obtain ⟨token', rfl, -⟩ := grown_terminal_iff.mp grown
      obtain ⟨rfl, rfl⟩ := List.cons.inj same
      exact finishes
    · intro finishes
      exact ⟨.leaf token, [], here, rfl, grown_terminal_iff.mpr ⟨token, rfl, rfl⟩, rfl, finishes⟩
  simp only [Takes, Completes, finishes]

/-- A token that begins a rule is taken by the frame opened for the rule. -/
theorem takes_rule_iff {m : Machine} {rule : Rule} {token : Token} {f : Frame} {symbol : Symbol}
    {tokens : List Token} {tree : Tree} (coherent : m.Coherent) (awaits : m.top.Awaits (.rule rule))
    (begins : token.terminal ∈ rule.first) (found : Frame.enter rule token = some (f, symbol)) :
    m.Takes token tokens tree ↔ Takes ⟨f, m.top :: m.below⟩ token tokens tree := by
  have other : rule ≠ .document := by
    obtain ⟨e, rest, same, symbolEq⟩ := awaits
    have tail := coherent.top.tail
    rw [same] at tail
    intro document
    exact tail.symbol_ne (symbolEq.trans (congrArg _ document))
  have finishes : ∀ here part, m.top.Finishes (token :: here) part ↔ ∃ inner front later,
      here = front ++ later ∧ f.Finishes (token :: front) inner ∧
        (m.top.plug inner).Finishes later part := by
    intro here part
    simp only [Frame.finishes_plug_iff coherent.top awaits begins,
      Frame.enter_finishes_iff other found, and_assoc]
  constructor
  · rintro ⟨part, here, later, rfl, taken, resumes⟩
    obtain ⟨inner, front, middle, rfl, taken, finishes⟩ := (finishes here part).mp taken
    exact ⟨inner, front, middle ++ later, by simp, taken, part, middle, later, rfl, finishes, resumes⟩
  · rintro ⟨inner, front, later, rfl, taken, part, middle, after, rfl, closes, resumes⟩
    refine ⟨part, front ++ middle, after, by simp, ?_, resumes⟩
    exact (finishes _ part).mpr ⟨inner, front, middle, rfl, taken, closes⟩

/-- After a token has been taken the machine waits for what was to come after it. -/
theorem descend_spec {token : Token} {fuel : Nat} {symbol : Symbol} {m : Machine}
    (coherent : m.Coherent) (awaits : m.top.Awaits symbol) (begins : token.terminal ∈ symbol.first)
    (enough : symbol.height ≤ fuel) :
    (descend token fuel symbol m).Coherent ∧ ∀ tokens tree,
      (descend token fuel symbol m).Completes tokens tree ↔ m.Takes token tokens tree := by
  -- Each rule that is opened is lower than the one around it, so that the fuel lasts.
  fun_induction descend token fuel symbol m with
  | case1 fuel terminal m =>
    obtain rfl : token.terminal = terminal := List.mem_singleton.mp begins
    refine ⟨⟨coherent.top.plug _, ?_⟩, fun tokens tree => (takes_terminal_iff coherent awaits).symm⟩
    simpa only [Frame.plug_rule] using coherent.nested
  | case2 rule m =>
    exact absurd enough (Nat.not_le.mpr rule.height_pos)
  | case3 fuel rule m f symbol found ih =>
    obtain ⟨same, ready, awaits', begins', lower⟩ := Frame.enter_some found
    have enough' : symbol.height ≤ fuel :=
      Nat.le_of_lt_succ (Nat.lt_of_lt_of_le lower enough)
    have coherent' : Coherent ⟨f, m.top :: m.below⟩ :=
      ⟨ready, coherent.top, by simpa only [same] using awaits, coherent.nested⟩
    obtain ⟨kept, completes⟩ := ih coherent' awaits' begins' enough'
    refine ⟨kept, fun tokens tree => ?_⟩
    rw [completes, takes_rule_iff coherent awaits begins found]
  | case4 fuel rule m missing =>
    obtain ⟨f, symbol, found⟩ := Frame.exists_enter begins
    rw [missing] at found
    cases found

private theorem Completes.cases_tokens {m : Machine} {tokens : List Token} {tree : Tree}
    (coherent : m.Coherent) (completes : m.Completes tokens tree) :
    (Element.allOptional m.top.rest = true ∧ nextTerminal tokens ∈ m.top.rule.follow ∧
      Resumes m.below m.top.close tokens tree) ∨
    ∃ token rest, tokens = token :: rest ∧ token.terminal ∈ Element.firstOf m.top.rest ∧
      m.Takes token rest tree := by
  obtain ⟨part, here, later, rfl, finishes, resumes⟩ := completes
  rcases finishes.cases_tokens coherent.top with ⟨rfl, optional⟩ | ⟨token, rest, rfl, member⟩
  · obtain rfl := (Frame.finishes_nil_iff coherent.top optional).mp finishes
    exact .inl ⟨optional, resumes.follow coherent.nested, resumes⟩
  · exact .inr ⟨token, rest ++ later, rfl, member, part, rest, later, rfl, finishes, resumes⟩

/-- The next token is one of those that the machine expects. -/
theorem Completes.expected {m : Machine} {tokens : List Token} {tree : Tree}
    (coherent : m.Coherent) (completes : m.Completes tokens tree) :
    nextTerminal tokens ∈ m.expected := by
  unfold Machine.expected Frame.expected
  rcases completes.cases_tokens coherent with ⟨optional, follow, -⟩ | ⟨token, rest, rfl, member, -⟩
  · rw [if_pos optional]
    exact List.mem_append_right _ follow
  · split
    · exact List.mem_append_left _ member
    · exact member

/-- An open rule is closed before a terminal that follows it and is no part of it. -/
theorem completes_close_iff {top f : Frame} {below : List Frame} {tokens : List Token}
    {tree : Tree} (coherent : Coherent ⟨top, f :: below⟩)
    (optional : Element.allOptional top.rest = true)
    (other : nextTerminal tokens ∉ Element.firstOf top.rest) :
    Completes ⟨top, f :: below⟩ tokens tree ↔ Completes ⟨f.plug top.close, below⟩ tokens tree := by
  constructor
  · intro completes
    rcases completes.cases_tokens coherent with ⟨-, -, resumes⟩ | ⟨token, rest, rfl, member, -⟩
    · exact resumes
    · exact absurd member other
  · intro completes
    exact ⟨top.close, [], tokens, rfl,
      (Frame.finishes_nil_iff coherent.top optional).mpr rfl, completes⟩

private theorem Coherent.close {top f : Frame} {below : List Frame}
    (coherent : Coherent ⟨top, f :: below⟩) : Coherent ⟨f.plug top.close, below⟩ := by
  obtain ⟨inner, -, around⟩ := coherent.nested
  refine ⟨inner.plug _, ?_⟩
  simpa only [Frame.plug_rule] using around

/-- What a step of the machine says about the tokens that are still to come. -/
def Step.Explains (step : Step) (m : Machine) (token : Token) : Prop :=
  match step with
  | .shifted next => next.Coherent ∧ token.terminal ≠ .endOfFile ∧
      ∀ tokens tree, m.Completes (token :: tokens) tree ↔ next.Completes tokens tree
  | .accepted result => token.terminal = .endOfFile ∧ ∀ tree, m.Completes [] tree ↔ tree = result
  | .rejected _ => ∀ tokens tree, nextTerminal tokens = token.terminal → ¬ m.Completes tokens tree

/-- Machines that wait for the same tokens take the same steps for the same reasons. -/
theorem Step.Explains.congr {step : Step} {m m' : Machine} {token : Token}
    (same : ∀ tokens tree, nextTerminal tokens = token.terminal →
      (m.Completes tokens tree ↔ m'.Completes tokens tree))
    (explains : Step.Explains step m' token) : Step.Explains step m token := by
  cases step with
  | shifted next =>
    obtain ⟨coherent, inside, completes⟩ := explains
    exact ⟨coherent, inside, fun tokens tree => (same _ tree rfl).trans (completes tokens tree)⟩
  | accepted result =>
    obtain ⟨atEnd, completes⟩ := explains
    exact ⟨atEnd, fun tree => (same [] tree atEnd.symm).trans (completes tree)⟩
  | rejected expected =>
    intro tokens tree next completes
    exact explains tokens tree next ((same tokens tree next).mp completes)

private theorem ready_explains {token : Token} {top f : Frame} {below : List Frame} {symbol : Symbol}
    (coherent : Coherent ⟨top, below⟩) (found : top.ready token.terminal = some (f, symbol)) :
    Step.Explains (.shifted (descend token depth symbol ⟨f, below⟩)) ⟨top, below⟩ token := by
  obtain ⟨same, ready, awaits, begins, -⟩ := Frame.seek_some coherent.top found
  have here : token.terminal ∈ Element.firstOf top.rest := by
    by_contra missing
    have none : top.ready token.terminal = none := Frame.seek_eq_none_iff.mpr missing
    rw [none] at found
    cases found
  have nested : Nested f.rule below := by simpa only [same] using coherent.nested
  obtain ⟨kept, completes⟩ :=
    descend_spec (m := ⟨f, below⟩) ⟨ready, nested⟩ awaits begins symbol.height_le_depth
  refine ⟨kept, ?_, fun tokens tree => ?_⟩
  · intro atEnd
    rw [atEnd] at here
    exact coherent.top.tail.endOfFile_not_mem here
  · rw [completes]
    constructor
    · intro completed
      rcases completed.cases_tokens coherent with
        ⟨optional, follow, -⟩ | ⟨_, _, split, -, part, front, later, rfl, finishes, resumes⟩
      · exact absurd here (coherent.top.tail.ends optional follow)
      · obtain ⟨rfl, rfl⟩ := List.cons.inj split
        exact ⟨part, front, later, rfl,
          (Frame.seek_finishes_iff coherent.top found).mpr finishes, resumes⟩
    · rintro ⟨part, front, later, rfl, finishes, resumes⟩
      exact ⟨part, token :: front, later, rfl,
        (Frame.seek_finishes_iff coherent.top found).mp finishes, resumes⟩

private theorem feedFrame_explains {token : Token} {top : Frame} {below : List Frame}
    (coherent : Coherent ⟨top, below⟩) :
    Step.Explains (feedFrame token top below) ⟨top, below⟩ token := by
  fun_induction feedFrame token top below with
  | case1 top below f symbol found => exact ready_explains coherent found
  | case2 top missing ends =>
    obtain ⟨optional, follow⟩ : Element.allOptional top.rest = true ∧
        token.terminal ∈ top.rule.follow := by
      simpa [Frame.endsBefore] using ends
    have document : top.rule = .document := coherent.nested
    rw [document] at follow
    refine ⟨List.mem_singleton.mp follow, fun tree => ?_⟩
    constructor
    · intro completes
      rcases completes.cases_tokens coherent with ⟨-, -, -, same⟩ | ⟨_, _, none, -⟩
      · exact same
      · cases none
    · rintro rfl
      exact ⟨top.close, [], [], rfl, (Frame.finishes_nil_iff coherent.top optional).mpr rfl, rfl, rfl⟩
  | case3 top missing ends f below ih =>
    obtain ⟨optional, -⟩ : Element.allOptional top.rest = true ∧
        token.terminal ∈ top.rule.follow := by
      simpa [Frame.endsBefore] using ends
    -- The token cannot begin what is left of the rule, so that nothing is lost by closing it.
    refine (ih coherent.close).congr fun tokens tree next => ?_
    refine completes_close_iff coherent optional ?_
    rw [next]
    exact Frame.seek_eq_none_iff.mp missing
  | case4 top below missing stays =>
    intro tokens tree next completes
    rcases completes.cases_tokens coherent with ⟨optional, follow, -⟩ | ⟨_, _, rfl, member, -⟩
    · rw [next] at follow
      exact stays (by simp [Frame.endsBefore, optional, follow])
    · exact absurd (next ▸ member) (Frame.seek_eq_none_iff.mp missing)

theorem feed_explains {m : Machine} (coherent : m.Coherent) (token : Token) :
    Step.Explains (m.feed token) m token :=
  feedFrame_explains coherent

/-! ### The first machine -/

theorem initial_coherent : initial.Coherent :=
  ⟨⟨⟨_, List.mem_singleton.mpr rfl, List.suffix_rfl⟩, fun _ _ => .inl rfl⟩, rfl⟩

/-- At first the machine waits for the tokens of a document. -/
theorem initial_completes_iff {tokens : List Token} {tree : Tree} :
    initial.Completes tokens tree ↔ Grown (.rule .document) tree ∧ tree.tokens = tokens := by
  constructor
  · rintro ⟨part, here, later, rfl, ⟨slots, rfl, fills⟩, rfl, rfl⟩
    obtain ⟨fits, rfl⟩ := fills_nil_iff.mp fills
    refine ⟨grown_rule_iff.mpr ⟨slots, rfl, _, List.mem_singleton.mpr rfl, fits⟩, ?_⟩
    exact (List.append_nil _).symm
  · rintro ⟨grown, rfl⟩
    obtain ⟨slots, rfl, alternative, chosen, fits⟩ := grown_rule_iff.mp grown
    obtain rfl := List.mem_singleton.mp chosen
    exact ⟨_, _, [], (List.append_nil _).symm, ⟨slots, rfl, fills_nil_iff.mpr ⟨fits, rfl⟩⟩, rfl, rfl⟩

end Machine

end IdlLint
