import IdlLint.Proofs.TypeChain
import IdlLint.Rules.Typing

/-! Typedefs in containers. What a set or a map may hold is decided by what a type stands for, so that a
typedef and its target are allowed in the same places. -/
namespace IdlLint.Rules

open IdlLint.Schema

/-- A set or a map without one of the types in it. -/
inductive TypeSlot where
  | setValue (annotations : List Note) (position : Position)
  | mapKey (value : TypeExpr) (annotations : List Note) (position : Position)
  | mapValue (key : TypeExpr) (annotations : List Note) (position : Position)

/-- The container with the missing type. -/
def TypeSlot.fill : TypeSlot → TypeExpr → TypeExpr
  | .setValue annotations position, type => .set type annotations position
  | .mapKey value annotations position, type => .map type value annotations position
  | .mapValue key annotations position, type => .map key type annotations position

/-- The checks of what containers hold. -/
def containerChecks (disallowed : List String) : List NodeCheck :=
  [setValueType, mapKeyType, mapValueDisallowed disallowed]

variable {ctx : Context} {type other : TypeExpr}

private theorem isPrimitive_congr (same : ctx.resolveType type = ctx.resolveType other) :
    isPrimitive ctx type = isPrimitive ctx other := by
  rw [isPrimitive, isPrimitive, same]

private theorem typeKind_congr (same : ctx.resolveType type = ctx.resolveType other) :
    typeKind ctx type = typeKind ctx other := by
  rw [typeKind, typeKind, same]

/-- Types that stand for the same are judged alike in every container. -/
theorem run_fill_congr (same : ctx.resolveType type = ctx.resolveType other)
    (disallowed : List String) (slot : TypeSlot) : ∀ check ∈ containerChecks disallowed,
    check.run ctx (.type (slot.fill type)) = check.run ctx (.type (slot.fill other)) := by
  have primitive := isPrimitive_congr same
  have kind := typeKind_congr same
  simp only [containerChecks, List.forall_mem_cons, List.not_mem_nil, false_implies, implies_true,
    and_true]
  cases slot with
  | setValue annotations position =>
    refine ⟨?_, rfl, rfl⟩
    simp only [setValueType, TypeSlot.fill, primitive]
  | mapKey value annotations position =>
    refine ⟨rfl, ?_, rfl⟩
    simp only [mapKeyType, TypeSlot.fill, primitive]
  | mapValue key annotations position =>
    refine ⟨rfl, rfl, ?_⟩
    simp only [mapValueDisallowed, TypeSlot.fill, kind]

/-- A type that leads to something is a base type or an enumeration exactly if its kind says so: no
container and no structure has a kind that is the name of one. -/
theorem isPrimitive_iff_typeKind (ctx : Context) (type : TypeExpr) :
    isPrimitive ctx type = true ↔ ∃ kind, typeKind ctx type = some kind ∧
      (kind = "enum" ∨ ∃ base : BaseType, kind = base.name) := by
  have apart : ∀ base : BaseType, base.name ∉ ["map", "set", "list", "struct", "union", "exception"] := by
    intro base
    cases base <;> decide
  unfold isPrimitive typeKind
  rcases ctx.resolveType type with _ | target | definition
  · simp
  · cases target with
    | base base annotations position => simp [targetKind]
    | reference name position => simp [targetKind]
    | _ => simpa [targetKind] using fun base same => apart base (by simp [← same])
  · cases definition with
    | struct struct =>
      cases kind : struct.kind <;>
        simpa [targetKind, kind, StructKind.name] using
          fun base same => apart base (by simp [← same])
    | _ => simp [targetKind]

/-- A typedef hides nothing. In every set and every map a typedef of the document and its target are
judged alike, if the typedef stands for anything. And what counts as a base type or an enumeration is
what has the kind of one. -/
theorem typedef_judged (ctx : Context) :
    (∀ name position typedef,
      ChainStep ctx.file.includes ⟨.type (.reference name position), ctx.file.document⟩
          ⟨.definition (.typedef typedef), ctx.file.document⟩ →
        ctx.resolveType (.reference name position) ≠ none →
          ∀ (disallowed : List String) (slot : TypeSlot), ∀ check ∈ containerChecks disallowed,
            check.run ctx (.type (slot.fill (.reference name position))) =
              check.run ctx (.type (slot.fill typedef.type))) ∧
    ∀ type, isPrimitive ctx type = true ↔ ∃ kind, typeKind ctx type = some kind ∧
      (kind = "enum" ∨ ∃ base : BaseType, kind = base.name) := by
  refine ⟨?_, isPrimitive_iff_typeKind ctx⟩
  intro name position typedef named resolved disallowed slot
  obtain ⟨goal, found⟩ := Option.ne_none_iff_exists'.mp resolved
  have target := resolveType_typedef named found
  exact run_fill_congr (found.trans target.symm) disallowed slot

/-- A typedef for a list, and one for a type of an include. -/
def aliases : Document :=
  ⟨[], [.alias "Names" (.list (.base .string [] .nowhere) [] .nowhere),
    .alias "Id" (.reference "shared.Key" .nowhere)]⟩

def aliasesShared : Document :=
  ⟨[], [.alias "Key" (.base .i64 [] .nowhere)]⟩

def aliasesContext : Context where
  file := { (default : FileContext) with
    document := aliases
    includes := OrderedMap.empty.insert "shared" aliasesShared }
  ruleId := "set.value.type"
  parents := []

/-- The list is reported under its other name too, and the include's type is not reported. -/
theorem typedef_judged_aliases :
    let ctx := aliasesContext
    let judge (type : TypeExpr) := setValueType.run ctx (.type (.set type [] .nowhere))
    let report := ctx.error .nowhere "set value must be a primitive type"
    judge (.list (.base .string [] .nowhere) [] .nowhere) = .ok [report] ∧
      judge (.reference "Names" .nowhere) = .ok [report] ∧
      judge (.reference "shared.Key" .nowhere) = .ok [] ∧ judge (.reference "Id" .nowhere) = .ok [] := by
  intro ctx judge report
  have listed : judge (.list (.base .string [] .nowhere) [] .nowhere) = .ok [report] := rfl
  have allowed : judge (.reference "shared.Key" .nowhere) = .ok [] := rfl
  have member : setValueType ∈ containerChecks [] := List.mem_cons_self ..
  have names := (typedef_judged ctx).1 "Names" .nowhere
    ⟨"Names", .list (.base .string [] .nowhere) [] .nowhere, [], .nowhere⟩
    (chainStep_of_lookup rfl rfl _) (by rw [← Option.isSome_iff_ne_none]; rfl)
    [] (.setValue [] .nowhere) setValueType member
  have key := (typedef_judged ctx).1 "Id" .nowhere
    ⟨"Id", .reference "shared.Key" .nowhere, [], .nowhere⟩
    (chainStep_of_lookup rfl rfl _) (by rw [← Option.isSome_iff_ne_none]; rfl)
    [] (.setValue [] .nowhere) setValueType member
  exact ⟨listed, names.trans listed, allowed, key.trans allowed⟩

end IdlLint.Rules
