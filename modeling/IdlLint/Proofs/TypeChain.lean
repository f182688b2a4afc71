import IdlLint.Proofs.TypeTrail
import Mathlib.Logic.Relation

/-! The steps from a type to what it stands for, without any bound on their number. A type is resolved
to the end of its chain of steps. There is no result for a chain that never ends, for one that meets
an unknown name, and for one that is too long. -/
namespace IdlLint.Schema

/-- One step from a type towards what it stands for. -/
inductive ChainStep (includes : Includes) : Waypoint → Waypoint → Prop where
  /-- A name that asks for an include is looked up there. -/
  | included {name qualifier rest : String} {position : Position} {owner holder : Document}
      {definition : Definition} (asks : Qualified name qualifier rest)
      (known : includes.get? qualifier = some holder)
      (found : holder.lookup rest = some definition) :
      ChainStep includes ⟨.type (.reference name position), owner⟩ ⟨.definition definition, holder⟩
  /-- Any other name is looked up in the document that it is used in. -/
  | own {name : String} {position : Position} {owner : Document} {definition : Definition}
      (unasked : ∀ qualifier rest, Qualified name qualifier rest → includes.get? qualifier = none)
      (found : owner.lookup name = some definition) :
      ChainStep includes ⟨.type (.reference name position), owner⟩ ⟨.definition definition, owner⟩
  | replace (typedef : Typedef) (owner : Document) :
      ChainStep includes ⟨.definition (.typedef typedef), owner⟩ ⟨.type typedef.type, owner⟩

/-- So many steps lead from one point to another. -/
inductive Chain (includes : Includes) : Nat → Waypoint → Waypoint → Prop where
  | here (point : Waypoint) : Chain includes 0 point point
  | step {n : Nat} {start next finish : Waypoint} (first : ChainStep includes start next)
      (rest : Chain includes n next finish) : Chain includes (n + 1) start finish

/-- The chain from `start` never ends. -/
def Endless (includes : Includes) (start : Waypoint) : Prop :=
  ∃ way : Nat → Waypoint, way 0 = start ∧ ∀ n, ChainStep includes (way n) (way (n + 1))

variable {includes : Includes} {start next middle finish : Waypoint} {m n fuel : Nat}

/-! ### Looking a name up -/

private theorem qualify_unasked {name : String} {owner : Document}
    (unasked : ∀ qualifier rest, Qualified name qualifier rest → includes.get? qualifier = none) :
    qualify name owner includes = (name, owner) := by
  apply qualify_local
  intro qualifier rest asks
  exact OrderedMap.get?_eq_none_iff.mp (unasked qualifier rest asks)

/-- A name is looked up in the include that it asks for, and otherwise as it is. -/
theorem qualify_cases (name : String) (owner : Document) (includes : Includes) :
    (∃ qualifier rest holder, Qualified name qualifier rest ∧
        includes.get? qualifier = some holder ∧ qualify name owner includes = (rest, holder)) ∨
      (∀ qualifier rest, Qualified name qualifier rest → includes.get? qualifier = none) ∧
        qualify name owner includes = (name, owner) := by
  by_cases asked : ∃ qualifier rest holder, Qualified name qualifier rest ∧
      includes.get? qualifier = some holder
  · obtain ⟨qualifier, rest, holder, asks, known⟩ := asked
    exact .inl ⟨qualifier, rest, holder, asks, known, qualify_included asks known⟩
  · have unasked : ∀ qualifier rest, Qualified name qualifier rest →
        includes.get? qualifier = none := by
      intro qualifier rest asks
      rw [Option.eq_none_iff_forall_ne_some]
      intro holder known
      exact asked ⟨qualifier, rest, holder, asks, known⟩
    exact .inr ⟨unasked, qualify_unasked unasked⟩

theorem chainStep_of_lookup {name localName : String} {owner holder : Document}
    {definition : Definition} (asked : qualify name owner includes = (localName, holder))
    (found : holder.lookup localName = some definition) (position : Position) :
    ChainStep includes ⟨.type (.reference name position), owner⟩ ⟨.definition definition, holder⟩ := by
  rcases qualify_cases name owner includes with
    ⟨qualifier, rest, included, asks, known, same⟩ | ⟨unasked, same⟩
  · obtain ⟨rfl, rfl⟩ := Prod.mk.inj (same.symm.trans asked)
    exact .included asks known found
  · obtain ⟨rfl, rfl⟩ := Prod.mk.inj (same.symm.trans asked)
    exact .own unasked found

/-! ### Steps and fuel -/

/-- A step takes one unit of fuel. -/
theorem ChainStep.follow_eq (step : ChainStep includes start next) (fuel : Nat) :
    follow includes (fuel + 1) start.target start.owner =
      follow includes fuel next.target next.owner := by
  cases step with
  | included asks known found =>
    rw [follow_reference, qualify_included asks known, found]
    rfl
  | own unasked found =>
    rw [follow_reference, qualify_unasked unasked, found]
    rfl
  | replace typedef owner => rfl

private theorem Chain.follow_eq (chain : Chain includes n start finish) (fuel : Nat) :
    follow includes (fuel + n) start.target start.owner =
      follow includes fuel finish.target finish.owner := by
  induction chain with
  | here point => rfl
  | step first rest ih => exact (first.follow_eq _).trans ih

private theorem Chain.trans (first : Chain includes m start middle)
    (second : Chain includes n middle finish) : Chain includes (m + n) start finish := by
  induction first with
  | here point => rwa [Nat.zero_add]
  | step one rest ih =>
    rw [Nat.succ_add]
    exact .step one (ih second)

/-- The beginning of a chain is a chain. -/
theorem Chain.exists_of_le (chain : Chain includes n start finish) (fewer : m ≤ n) :
    ∃ point, Chain includes m start point := by
  induction chain generalizing m with
  | here point =>
    obtain rfl := Nat.le_zero.mp fewer
    exact ⟨point, .here point⟩
  | step first rest ih =>
    cases m with
    | zero => exact ⟨_, .here _⟩
    | succ m =>
      obtain ⟨point, more⟩ := ih (Nat.le_of_succ_le_succ fewer)
      exact ⟨point, .step first more⟩

/-- A chain with as many steps as there is fuel is not followed to its end. -/
theorem Chain.follow_eq_none (chain : Chain includes n start finish) (long : fuel ≤ n) :
    follow includes fuel start.target start.owner = none := by
  obtain ⟨point, exact⟩ := chain.exists_of_le long
  have spent := exact.follow_eq 0
  rw [Nat.zero_add] at spent
  rw [spent, follow]

/-- A point from which nothing can be looked up or replaced and which is no end stands for nothing. -/
theorem follow_eq_none_of_stuck {name : String} {position : Position} {owner : Document}
    (stuck : ∀ next, ¬ChainStep includes ⟨.type (.reference name position), owner⟩ next) :
    follow includes fuel (.type (.reference name position)) owner = none := by
  cases fuel with
  | zero => rfl
  | succ fuel =>
    rw [follow_reference]
    cases found : (qualify name owner includes).2.lookup (qualify name owner includes).1 with
    | none => rfl
    | some definition => exact absurd (chainStep_of_lookup rfl found position) (stuck _)

private theorem Trail.exists_chain {typedefs : Nat} (trail : Trail includes start typedefs finish) :
    ∃ n, Chain includes n start finish := by
  induction trail with
  | here point => exact ⟨0, .here point⟩
  | lookup asked found rest ih =>
    obtain ⟨n, chain⟩ := ih
    exact ⟨n + 1, .step (chainStep_of_lookup asked found _) chain⟩
  | replace rest ih =>
    obtain ⟨n, chain⟩ := ih
    exact ⟨n + 1, .step (.replace _ _) chain⟩

/-- What is found is the end of a chain that has fewer steps than there is fuel. -/
theorem follow_eq_some_iff_chain {target goal : TypeTarget} {owner : Document} :
    follow includes fuel target owner = some goal ↔
      goal.IsFinal ∧ ∃ n < fuel, ∃ holder, Chain includes n ⟨target, owner⟩ ⟨goal, holder⟩ := by
  constructor
  · intro found
    obtain ⟨typedefs, final, holder, trail⟩ := exists_leads_of_follow found
    obtain ⟨n, chain⟩ := trail.exists_chain
    refine ⟨final, n, ?_, holder, chain⟩
    by_contra long
    have none := chain.follow_eq_none (Nat.not_lt.mp long)
    rw [found] at none
    cases none
  · rintro ⟨final, n, few, holder, chain⟩
    obtain ⟨more, rfl⟩ : ∃ more, fuel = (more + 1) + n := ⟨fuel - n - 1, by omega⟩
    exact (chain.follow_eq (more + 1)).trans (follow_final final includes more holder)

private theorem follow_mono {target goal : TypeTarget} {owner : Document} (less : m ≤ n)
    (found : follow includes m target owner = some goal) :
    follow includes n target owner = some goal := by
  obtain ⟨final, steps, few, holder, chain⟩ := follow_eq_some_iff_chain.mp found
  exact follow_eq_some_iff_chain.mpr ⟨final, steps, Nat.lt_of_lt_of_le few less, holder, chain⟩

/-! ### Chains that never end -/

private theorem Endless.exists_chain (endless : Endless includes start) (n : Nat) :
    ∃ point, Chain includes n start point := by
  obtain ⟨way, rfl, steps⟩ := endless
  have reached : ∀ k, Chain includes n (way k) (way (k + n)) := by
    induction n with
    | zero => exact fun k => .here _
    | succ n ih =>
      intro k
      have rest := ih (k + 1)
      rw [Nat.add_right_comm] at rest
      exact .step (steps k) rest
  exact ⟨_, reached 0⟩

private theorem exists_chain_of_transGen
    (path : Relation.TransGen (ChainStep includes) start finish) :
    ∃ n, Chain includes (n + 1) start finish := by
  induction path using Relation.TransGen.head_induction_on with
  | single last => exact ⟨0, .step last (.here _)⟩
  | head first _ ih =>
    obtain ⟨n, chain⟩ := ih
    exact ⟨n + 1, .step first chain⟩

/-- A chain that comes back to a point can go round as often as one likes. -/
theorem Chain.repeat (loop : Chain includes (n + 1) start start) (times : Nat) :
    ∃ more ≥ times, Chain includes more start start := by
  induction times with
  | zero => exact ⟨0, Nat.le_refl 0, .here start⟩
  | succ times ih =>
    obtain ⟨more, enough, chain⟩ := ih
    exact ⟨n + 1 + more, by omega, loop.trans chain⟩

/-! ### Resolving a type -/

/-- What a typedef stands for its target stands for too, used where the typedef was found. -/
theorem resolveType_typedef {type : TypeExpr} {document holder : Document} {typedef : Typedef}
    {goal : TypeTarget}
    (named : ChainStep includes ⟨.type type, document⟩ ⟨.definition (.typedef typedef), holder⟩)
    (found : resolveType type document includes = some goal) :
    resolveType typedef.type holder includes = some goal := by
  have chain : Chain includes 2 ⟨.type type, document⟩ ⟨.type typedef.type, holder⟩ :=
    .step named (.step (.replace typedef holder) (.here _))
  have rest := (chain.follow_eq (resolutionDepth - 2)).symm.trans found
  exact follow_mono (Nat.sub_le ..) rest

/-- A type is resolved to the end of its chain, if that takes fewer steps than are allowed. There is no
result if the chain never ends, if it comes back to a point or if it meets an unknown name. A typedef
and its target, used where the typedef was found, stand for the same. -/
theorem resolveType_chain (type : TypeExpr) (document : Document) (includes : Includes) :
    let start : Waypoint := ⟨.type type, document⟩
    let result := resolveType type document includes
    (∀ goal, result = some goal ↔ goal.IsFinal ∧
        ∃ n < resolutionDepth, ∃ owner, Chain includes n start ⟨goal, owner⟩) ∧
      (Endless includes start → result = none) ∧
      (∀ n point, Chain includes n start point →
        Relation.TransGen (ChainStep includes) point point → result = none) ∧
      (∀ n name position owner,
        Chain includes n start ⟨.type (.reference name position), owner⟩ →
          (∀ next, ¬ChainStep includes ⟨.type (.reference name position), owner⟩ next) →
            result = none) ∧
      ∀ typedef holder, ChainStep includes start ⟨.definition (.typedef typedef), holder⟩ →
        ∀ goal, result = some goal → resolveType typedef.type holder includes = some goal := by
  intro start result
  refine ⟨fun goal => follow_eq_some_iff_chain, ?_, ?_, ?_,
    fun typedef holder named goal found => resolveType_typedef named found⟩
  · intro endless
    obtain ⟨point, chain⟩ := endless.exists_chain resolutionDepth
    exact chain.follow_eq_none (Nat.le_refl _)
  · intro n point reached cycle
    obtain ⟨length, loop⟩ := exists_chain_of_transGen cycle
    obtain ⟨more, enough, chain⟩ := loop.repeat resolutionDepth
    exact (reached.trans chain).follow_eq_none (by omega)
  · intro n name position owner reached unknown
    rcases Nat.lt_or_ge n resolutionDepth with few | many
    · obtain ⟨more, left⟩ := Nat.exists_eq_add_of_lt few
      have rest := reached.follow_eq (more + 1)
      rw [follow_eq_none_of_stuck unknown] at rest
      have depth : resolutionDepth = more + 1 + n := by omega
      exact (congrArg (follow includes · start.target start.owner) depth).trans rest
    · exact reached.follow_eq_none many

/-- A document with a typedef that leads through an include back to itself, and with two more. -/
def circling : Document :=
  ⟨[], [.alias "A" (.reference "shared.B" .nowhere), .alias "T" (.reference "U" .nowhere),
    .alias "U" (.base .i64 [] .nowhere)]⟩

def circlingShared : Document :=
  ⟨[], [.alias "B" (.reference "main.A" .nowhere)]⟩

def circlingIncludes : Includes :=
  (OrderedMap.empty.insert "shared" circlingShared).insert "main" circling

/-- The typedef that leads back to itself stands for nothing, the others for the same. -/
theorem resolveType_circling :
    (∃ n point, Chain circlingIncludes n ⟨.type (.reference "A" .nowhere), circling⟩ point ∧
        Relation.TransGen (ChainStep circlingIncludes) point point) ∧
      resolveType (.reference "A" .nowhere) circling circlingIncludes = none ∧
      resolveType (.reference "T" .nowhere) circling circlingIncludes =
        some (.type (.base .i64 [] .nowhere)) ∧
      resolveType (.reference "U" .nowhere) circling circlingIncludes =
        some (.type (.base .i64 [] .nowhere)) := by
  let a : Typedef := ⟨"A", .reference "shared.B" .nowhere, [], .nowhere⟩
  let b : Typedef := ⟨"B", .reference "main.A" .nowhere, [], .nowhere⟩
  let t : Typedef := ⟨"T", .reference "U" .nowhere, [], .nowhere⟩
  have first : ChainStep circlingIncludes ⟨.type (.reference "A" .nowhere), circling⟩
      ⟨.definition (.typedef a), circling⟩ := chainStep_of_lookup rfl rfl _
  have away : ChainStep circlingIncludes ⟨.type a.type, circling⟩
      ⟨.definition (.typedef b), circlingShared⟩ := chainStep_of_lookup rfl rfl _
  have back : ChainStep circlingIncludes ⟨.type b.type, circlingShared⟩
      ⟨.definition (.typedef a), circling⟩ := chainStep_of_lookup rfl rfl _
  have loop : Relation.TransGen (ChainStep circlingIncludes) ⟨.definition (.typedef a), circling⟩
      ⟨.definition (.typedef a), circling⟩ :=
    .tail (.tail (.tail (.single (.replace a circling)) away) (.replace b circlingShared)) back
  have named : ChainStep circlingIncludes ⟨.type (.reference "T" .nowhere), circling⟩
      ⟨.definition (.typedef t), circling⟩ := chainStep_of_lookup rfl rfl _
  have found : resolveType (.reference "T" .nowhere) circling circlingIncludes =
      some (.type (.base .i64 [] .nowhere)) := rfl
  have reached := Chain.step first (.here _)
  obtain ⟨-, -, cyclic, -, -⟩ := resolveType_chain (.reference "A" .nowhere) circling circlingIncludes
  obtain ⟨-, -, -, -, same⟩ := resolveType_chain (.reference "T" .nowhere) circling circlingIncludes
  exact ⟨⟨_, _, reached, loop⟩, cyclic _ _ reached loop, found, same t circling named _ found⟩

end IdlLint.Schema
