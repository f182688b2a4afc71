import IdlLint.Proofs.QualifiedName

/-! The way from a type to what it stands for. References and typedefs take turns on it, and each of
them counts against the depth to which a type is resolved. -/
namespace IdlLint.Schema

/-- A point on the way from a type to what it stands for, with the document that it is used in. -/
structure Waypoint where
  target : TypeTarget
  owner : Document

namespace TypeTarget

/-- There is nothing more to look up or to replace. -/
def IsFinal : TypeTarget → Prop
  | .type (.reference ..) => False
  | .definition (.typedef _) => False
  | _ => True

/-- Types and definitions take turns, so this tells how long a way is from the typedefs on it. -/
def turn : TypeTarget → Nat
  | .type _ => 1
  | .definition _ => 0

@[simp] theorem turn_type (t : TypeExpr) : (type t).turn = 1 := rfl

@[simp] theorem turn_definition (d : Definition) : (definition d).turn = 0 := rfl

private theorem turn_le_one (target : TypeTarget) : target.turn ≤ 1 := by
  cases target <;> simp

theorem final_or_step (target : TypeTarget) :
    target.IsFinal ∨ (∃ name position, target = .type (.reference name position)) ∨
      ∃ typedef, target = .definition (.typedef typedef) := by
  cases target with
  | type t =>
    cases t with
    | reference name position => exact .inr (.inl ⟨name, position, rfl⟩)
    | _ => exact .inl trivial
  | definition d =>
    cases d with
    | typedef typedef => exact .inr (.inr ⟨typedef, rfl⟩)
    | _ => exact .inl trivial

end TypeTarget

/-- The way from one point to another and the number of typedefs that it passes. -/
inductive Trail (includes : Includes) : Waypoint → Nat → Waypoint → Prop where
  | here (point : Waypoint) : Trail includes point 0 point
  | lookup {name localName : String} {position : Position} {owner holder : Document}
      {definition : Definition} {typedefs : Nat} {goal : Waypoint}
      (asked : qualify name owner includes = (localName, holder))
      (found : holder.lookup localName = some definition)
      (rest : Trail includes ⟨.definition definition, holder⟩ typedefs goal) :
      Trail includes ⟨.type (.reference name position), owner⟩ typedefs goal
  | replace {typedef : Typedef} {owner : Document} {typedefs : Nat} {goal : Waypoint}
      (rest : Trail includes ⟨.type typedef.type, owner⟩ typedefs goal) :
      Trail includes ⟨.definition (.typedef typedef), owner⟩ (typedefs + 1) goal

/-- The way from `start` passes so many typedefs and ends at `goal`. -/
def Leads (includes : Includes) (start : Waypoint) (typedefs : Nat) (goal : TypeTarget) : Prop :=
  goal.IsFinal ∧ ∃ owner, Trail includes start typedefs ⟨goal, owner⟩

/-- After so many typedefs the way from `start` comes to a reference to `name`. -/
def Meets (includes : Includes) (start : Waypoint) (typedefs : Nat) (name : String) : Prop :=
  ∃ position owner, Trail includes start typedefs ⟨.type (.reference name position), owner⟩

theorem follow_reference (includes : Includes) (fuel : Nat) (name : String) (position : Position)
    (owner : Document) :
    follow includes (fuel + 1) (.type (.reference name position)) owner =
      ((qualify name owner includes).2.lookup (qualify name owner includes).1).bind fun found =>
        follow includes fuel (.definition found) (qualify name owner includes).2 := by
  rw [follow]
  obtain ⟨localName, holder⟩ := qualify name owner includes
  cases found : holder.lookup localName <;> simp [found]

theorem resolveType_lookup (includes : Includes) (name : String) (position : Position)
    (document : Document) :
    resolveType (.reference name position) document includes =
      ((qualify name document includes).2.lookup (qualify name document includes).1).bind
        fun found => follow includes (resolutionDepth - 1) (.definition found)
          (qualify name document includes).2 :=
  follow_reference includes (resolutionDepth - 1) name position document

theorem resolutionDepth_eq : resolutionDepth = 2 * (resolutionDepth / 2) := rfl

theorem follow_final {target : TypeTarget} (final : target.IsFinal) (includes : Includes)
    (fuel : Nat) (owner : Document) :
    follow includes (fuel + 1) target owner = some target := by
  cases target with
  | type t =>
    cases t with
    | reference name position => exact final.elim
    | _ => rfl
  | definition d =>
    cases d with
    | typedef d => exact final.elim
    | _ => rfl

variable {includes includes' : Includes} {fuel typedefs : Nat} {target goal : TypeTarget}
  {owner : Document}

/-- A way is followed to its end if there are more steps left than it has. -/
theorem Trail.follow_eq {start finish : Waypoint} (trail : Trail includes start typedefs finish)
    (final : finish.target.IsFinal) (fuel : Nat) :
    follow includes fuel start.target start.owner =
      if 2 * typedefs + start.target.turn < fuel + finish.target.turn then some finish.target
      else none := by
  have last := finish.target.turn_le_one
  induction trail generalizing fuel with
  | here point =>
    cases fuel with
    | zero => simp [follow]
    | succ fuel => rw [follow_final final, if_pos (by omega)]
  | lookup asked found rest ih =>
    cases fuel with
    | zero =>
      rw [follow, if_neg]
      simp only [TypeTarget.turn_type]
      omega
    | succ fuel =>
      rw [follow_reference, asked, found]
      refine (ih final fuel last).trans (if_congr ?_ rfl rfl)
      simp only [TypeTarget.turn_type, TypeTarget.turn_definition]
      omega
  | replace rest ih =>
    cases fuel with
    | zero =>
      rw [follow, if_neg]
      simp only [TypeTarget.turn_definition]
      omega
    | succ fuel =>
      refine (ih final fuel last).trans (if_congr ?_ rfl rfl)
      simp only [TypeTarget.turn_type, TypeTarget.turn_definition]
      omega

/-- What is found is the end of a way. -/
theorem exists_leads_of_follow (found : follow includes fuel target owner = some goal) :
    ∃ typedefs, Leads includes ⟨target, owner⟩ typedefs goal := by
  induction fuel generalizing target owner with
  | zero => cases found
  | succ fuel ih =>
    rcases target.final_or_step with final | ⟨name, position, rfl⟩ | ⟨typedef, rfl⟩
    · obtain rfl := Option.some.inj ((follow_final final includes fuel owner).symm.trans found)
      exact ⟨0, final, owner, .here _⟩
    · rw [follow_reference, Option.bind_eq_some_iff] at found
      obtain ⟨definition, present, found⟩ := found
      obtain ⟨typedefs, ended, holder, trail⟩ := ih found
      exact ⟨typedefs, ended, holder, .lookup rfl present trail⟩
    · obtain ⟨typedefs, ended, holder, trail⟩ := ih found
      exact ⟨typedefs + 1, ended, holder, .replace trail⟩

theorem follow_eq_some_iff :
    follow includes fuel target owner = some goal ↔
      ∃ typedefs, Leads includes ⟨target, owner⟩ typedefs goal ∧
        2 * typedefs + target.turn < fuel + goal.turn := by
  constructor
  · intro found
    obtain ⟨typedefs, final, holder, trail⟩ := exists_leads_of_follow found
    refine ⟨typedefs, ⟨final, holder, trail⟩, ?_⟩
    by_contra short
    have stuck := trail.follow_eq final fuel
    rw [if_neg short, found] at stuck
    cases stuck
  · rintro ⟨typedefs, ⟨final, holder, trail⟩, enough⟩
    exact (trail.follow_eq final fuel).trans (if_pos enough)

/-- Of the includes only those matter that are asked for on the way. -/
theorem follow_congr (agree : ∀ typedefs name, 2 * typedefs + target.turn ≤ fuel →
      Meets includes ⟨target, owner⟩ typedefs name → ∀ qualifier rest,
        Qualified name qualifier rest → includes.get? qualifier = includes'.get? qualifier) :
    follow includes fuel target owner = follow includes' fuel target owner := by
  induction fuel generalizing target owner with
  | zero => rfl
  | succ fuel ih =>
    rcases target.final_or_step with final | ⟨name, position, rfl⟩ | ⟨typedef, rfl⟩
    · rw [follow_final final, follow_final final]
    · have same : qualify name owner includes = qualify name owner includes' :=
        qualify_congr (agree 0 name (by simp) ⟨position, owner, .here _⟩)
      rw [follow_reference, follow_reference, ← same]
      cases found : (qualify name owner includes).2.lookup (qualify name owner includes).1 with
      | none => rfl
      | some definition =>
        apply ih
        rintro typedefs met within ⟨place, holder, trail⟩
        refine agree typedefs met ?_ ⟨place, holder, .lookup rfl found trail⟩
        simpa using within
    · apply ih
      rintro typedefs met within ⟨place, holder, trail⟩
      refine agree (typedefs + 1) met ?_ ⟨place, holder, .replace trail⟩
      simp only [TypeTarget.turn_type, TypeTarget.turn_definition] at within ⊢
      omega

/-- A reference is resolved if its way passes fewer typedefs than half of the steps that are
allowed, since each of them takes two: one to look it up and one to replace it. -/
theorem resolveType_reference (name : String) (position : Position) (document : Document)
    (includes : Includes) :
    let start : Waypoint := ⟨.type (.reference name position), document⟩
    let result := resolveType (.reference name position) document includes
    (∀ typedefs goal, Leads includes start typedefs goal →
        result = if typedefs < resolutionDepth / 2 then some goal else none) ∧
      ((¬∃ typedefs goal, Leads includes start typedefs goal) → result = none) := by
  intro start result
  constructor
  · rintro typedefs goal ⟨final, holder, trail⟩
    refine (trail.follow_eq final resolutionDepth).trans (if_congr ?_ rfl rfl)
    have last := goal.turn_le_one
    have even := resolutionDepth_eq
    simp only [start, TypeTarget.turn_type]
    omega
  · intro endless
    rw [Option.eq_none_iff_forall_not_mem]
    intro goal found
    obtain ⟨typedefs, leads⟩ := exists_leads_of_follow found
    exact endless ⟨typedefs, goal, leads⟩

/-- Another name for a type. -/
def Definition.alias (name : String) (type : TypeExpr) : Definition :=
  .typedef ⟨name, type, [], .nowhere⟩

/-- Sixteen typedefs, each but the last another name for the next. -/
def sixteenTypedefs : Document :=
  let letter (i : Nat) : String := String.singleton (Char.ofNat (65 + i))
  ⟨[], ((List.range 15).map fun i => .alias (letter i) (.reference (letter (i + 1)) .nowhere)) ++
    [.alias (letter 15) (.base .i64 [] .nowhere)]⟩

/-- The way through all of them ends, and is not followed to its end. -/
theorem resolveType_sixteenTypedefs :
    (∃ goal, Leads .empty ⟨.type (.reference "A" .nowhere), sixteenTypedefs⟩ 16 goal) ∧
      resolveType (.reference "A" .nowhere) sixteenTypedefs .empty = none := by
  have stuck : follow .empty 32 (.type (.reference "A" .nowhere)) sixteenTypedefs = none := by
    rw [← Option.isNone_iff_eq_none]
    decide +kernel
  have arrives : (follow .empty 33 (.type (.reference "A" .nowhere)) sixteenTypedefs).isSome := by
    decide +kernel
  obtain ⟨goal, found⟩ := Option.isSome_iff_exists.mp arrives
  obtain ⟨typedefs, ⟨final, holder, trail⟩, enough⟩ := follow_eq_some_iff.mp found
  have short : ¬2 * typedefs + 1 < 32 + goal.turn := by
    intro enough
    have followed := (trail.follow_eq final 32).trans (if_pos enough)
    rw [stuck] at followed
    cases followed
  have last := goal.turn_le_one
  have count : typedefs = 16 := by
    rw [TypeTarget.turn_type] at enough
    omega
  subst count
  exact ⟨⟨goal, final, holder, trail⟩, stuck⟩

end IdlLint.Schema
