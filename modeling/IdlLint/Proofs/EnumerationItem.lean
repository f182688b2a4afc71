import IdlLint.Proofs.BareDocument

/-! Items of enumerations. An item is named by its enumeration or by a typedef of it, but the
typedefs are followed as if the document had no includes, and one typedef further than a type is. -/
namespace IdlLint.Schema

variable {name item : String} {position : Position} {document owner : Document}
  {includes : Includes} {enum : Enum}

private theorem TypeTarget.enum?_eq_some_iff {target : TypeTarget} :
    target.enum? = some enum ↔ target = .definition (.enum enum) := by
  constructor
  · intro same
    cases target with
    | type t => cases same
    | definition d =>
      cases d with
      | enum d => rw [Option.some.inj same]
      | _ => cases same
  · rintro rfl
    rfl

/-- A typedef is looked up and replaced before its type is resolved, so that one more may be passed
than on the way from a reference. -/
theorem enumNamed_eq_some_iff :
    enumNamed name owner = some enum ↔ ∃ typedefs ≤ resolutionDepth / 2,
      Leads .empty ⟨.type (.reference name position), owner⟩ typedefs
        (.definition (.enum enum)) := by
  rw [enumNamed_eq, Option.bind_eq_some_iff]
  constructor
  · rintro ⟨definition, found, named⟩
    cases definition with
    | enum d =>
      obtain rfl := Option.some.inj named
      exact ⟨0, Nat.zero_le _, trivial, owner, .lookup (qualify_empty ..) found (.here _)⟩
    | typedef d =>
      obtain ⟨target, resolved, same⟩ := Option.bind_eq_some_iff.mp named
      rw [TypeTarget.enum?_eq_some_iff] at same
      subst same
      obtain ⟨typedefs, ⟨final, holder, trail⟩, enough⟩ := follow_eq_some_iff.mp resolved
      refine ⟨typedefs + 1, ?_, final, holder, .lookup (qualify_empty ..) found (.replace trail)⟩
      rw [TypeTarget.turn_type, TypeTarget.turn_definition] at enough
      have even := resolutionDepth_eq
      omega
    | _ => cases named
  · rintro ⟨typedefs, few, final, holder, trail⟩
    cases trail with
    | @lookup _ localName _ _ here definition _ _ asked found rest =>
      rw [qualify_empty, Prod.mk.injEq] at asked
      obtain ⟨rfl, rfl⟩ := asked
      refine ⟨definition, found, ?_⟩
      cases rest with
      | here => rfl
      | @replace typedef _ typedefs _ rest =>
        have resolved : resolveType typedef.type owner .empty =
            some (.definition (.enum enum)) := by
          refine follow_eq_some_iff.mpr ⟨typedefs, ⟨final, holder, rest⟩, ?_⟩
          have even := resolutionDepth_eq
          rw [TypeTarget.turn_type, TypeTarget.turn_definition]
          omega
        rw [Definition.enumIn, resolved]
        rfl

/-- The first item called `name`. -/
def Enum.item? (name : String) (enum : Enum) : Option EnumItem :=
  enum.items.find? fun item => item.name == name

/-- A name with a dot that is not that of a constant names an item. -/
theorem resolveConstant_dotted (plain : '.' ∉ item.toList)
    (asked : qualify (name ++ "." ++ item) document includes = (name ++ "." ++ item, document))
    (other : ∀ constant, document.lookup (name ++ "." ++ item) ≠ some (.constant constant)) :
    resolveConstant (name ++ "." ++ item) document includes =
      if name = "" then none
      else ((enumNamed name document).bind (Enum.item? item)).map .item := by
  unfold resolveConstant
  rw [asked]
  dsimp only
  split
  · rename_i constant found
    exact absurd found (other constant)
  · rw [toList_dotted, splitLast_append plain]
    by_cases empty : name = ""
    · simp [empty]
    · have nonempty : name.toList ≠ [] := by simpa using empty
      rw [if_neg empty]
      simp only [List.isEmpty_iff, nonempty, if_false, String.ofList_toList]
      cases enumNamed name document <;> rfl

/-- No name on the way from `start` asks for an include. -/
def Waypoint.IsLocal (start : Waypoint) (includes : Includes) : Prop :=
  ∀ typedefs met, Meets includes start typedefs met →
    ∀ qualifier rest, Qualified met qualifier rest → qualifier ∉ includes.keys

/-- Without the includes the way is the same if it needs none of them. -/
theorem Waypoint.IsLocal.follow_empty {start : Waypoint} (stays : start.IsLocal includes)
    (fuel : Nat) :
    follow includes fuel start.target start.owner =
      follow .empty fuel start.target start.owner := by
  apply follow_congr
  intro typedefs met _ meets qualifier rest asks
  rw [OrderedMap.get?_empty, OrderedMap.get?_eq_none_iff]
  exact stays typedefs met meets qualifier rest asks

/-- A name with a qualifier is that of no definition if these have none. -/
theorem Qualified.lookup_eq_none {qualifier rest : String} (asks : Qualified name qualifier rest)
    (plain : ∀ definition ∈ document.definitions, '.' ∉ definition.name.toList) :
    document.lookup name = none := by
  refine List.find?_eq_none.mpr ?_
  intro definition member same
  apply plain definition member
  rw [eq_of_beq same, asks.written, toList_dotted]
  simp

/-- Without the includes a way is lost at the first name that has a qualifier. -/
theorem Trail.follow_empty_eq_none {start finish : Waypoint} {typedefs : Nat} {met : String}
    (trail : Trail includes start typedefs finish)
    (reference : finish.target = .type (.reference met position)) {qualifier rest : String}
    (asks : Qualified met qualifier rest)
    (plain : ∀ definition ∈ start.owner.definitions, '.' ∉ definition.name.toList) (fuel : Nat) :
    follow .empty fuel start.target start.owner = none := by
  induction trail generalizing fuel with
  | here point =>
    cases fuel with
    | zero => rfl
    | succ fuel =>
      rw [reference, follow_reference, qualify_empty, asks.lookup_eq_none plain]
      rfl
  | @lookup name localName place owner holder definition typedefs finish asked found rest ih =>
    cases fuel with
    | zero => rfl
    | succ fuel =>
      rw [follow_reference, qualify_empty]
      by_cases away : ∃ qualifier rest, Qualified name qualifier rest
      · obtain ⟨qualifier, rest, asks⟩ := away
        rw [asks.lookup_eq_none plain]
        rfl
      · have here : qualify name owner includes = (name, owner) :=
          qualify_local fun qualifier rest asks => absurd ⟨qualifier, rest, asks⟩ away
        rw [here, Prod.mk.injEq] at asked
        obtain ⟨rfl, rfl⟩ := asked
        rw [found]
        exact ih reference plain fuel
  | replace rest ih =>
    cases fuel with
    | zero => rfl
    | succ fuel => exact ih reference plain fuel

/-- An enumeration and its items are found under the same name as long as no include is needed on
the way to it: the typedefs of an item's name are followed without the includes. -/
theorem resolveConstant_enumItem {first : EnumItem} (plainName : '.' ∉ name.toList)
    (plainItem : '.' ∉ item.toList) (outside : name ∉ includes.keys)
    (resolved : resolveType (.reference name position) document includes =
      some (.definition (.enum enum)))
    (listed : enum.item? item = some first)
    (other : ∀ constant, document.lookup (name ++ "." ++ item) ≠ some (.constant constant)) :
    let start : Waypoint := ⟨.type (.reference name position), document⟩
    let result := resolveConstant (name ++ "." ++ item) document includes
    (result = some (.item first) ↔ name ≠ "" ∧ ∃ typedefs ≤ resolutionDepth / 2, ∃ alone : Enum,
        Leads .empty start typedefs (.definition (.enum alone)) ∧
          alone.item? item = some first) ∧
      (name ≠ "" → start.IsLocal includes → result = some (.item first)) ∧
      ((∀ definition ∈ document.definitions, '.' ∉ definition.name.toList) →
        ¬start.IsLocal includes → result = none) := by
  intro start result
  have here : qualify (name ++ "." ++ item) document includes =
      (name ++ "." ++ item, document) := by
    apply qualify_local
    intro qualifier rest asks
    rwa [(asks.eq_of_plain plainName).1]
  have value : result = _ := resolveConstant_dotted plainItem here other
  have named (alone : Enum) : enumNamed name document = some alone ↔
      ∃ typedefs ≤ resolutionDepth / 2,
        Leads .empty start typedefs (.definition (.enum alone)) :=
    enumNamed_eq_some_iff
  have found : result = some (.item first) ↔ name ≠ "" ∧ ∃ alone,
      enumNamed name document = some alone ∧ alone.item? item = some first := by
    rw [value]
    by_cases empty : name = "" <;> simp [empty, Option.bind_eq_some_iff]
  refine ⟨?_, ?_, ?_⟩
  · simp only [found, named]
    constructor
    · rintro ⟨nonempty, alone, ⟨typedefs, few, leads⟩, same⟩
      exact ⟨nonempty, typedefs, few, alone, leads, same⟩
    · rintro ⟨nonempty, typedefs, few, alone, leads, same⟩
      exact ⟨nonempty, alone, ⟨typedefs, few, leads⟩, same⟩
  · intro nonempty stays
    rw [found]
    refine ⟨nonempty, enum, (named enum).mpr ?_, listed⟩
    have unaided := (stays.follow_empty resolutionDepth).symm.trans resolved
    obtain ⟨typedefs, leads, enough⟩ := follow_eq_some_iff.mp unaided
    refine ⟨typedefs, ?_, leads⟩
    rw [TypeTarget.turn_type, TypeTarget.turn_definition] at enough
    have even := resolutionDepth_eq
    omega
  · intro plain away
    have missing : enumNamed name document = none := by
      rw [Option.eq_none_iff_forall_not_mem]
      intro alone present
      obtain ⟨typedefs, -, leads⟩ := (named alone).mp present
      have followed : follow .empty (2 * typedefs + 2) start.target start.owner = some _ :=
        follow_eq_some_iff.mpr ⟨typedefs, leads, by simp [start]⟩
      apply away
      rintro passed met ⟨place, owner, trail⟩ qualifier rest asks
      rw [trail.follow_empty_eq_none rfl asks plain] at followed
      cases followed
    rw [value, missing]
    simp

def red : EnumItem :=
  ⟨"RED", some 1, [], .nowhere⟩

def color : Enum :=
  ⟨"Color", [red], [], .nowhere⟩

/-- An enumeration and a typedef for it. -/
def palette : Document :=
  ⟨[], [.enum color, .alias "Shade" (.reference "Color" .nowhere)]⟩

theorem resolveConstant_shade :
    let includes : Includes := OrderedMap.empty.insert "shared" palette
    resolveType (.reference "Shade" .nowhere) palette includes = some (.definition (.enum color)) ∧
      resolveConstant "Shade.RED" palette includes = some (.item red) := by
  intro includes
  have resolved : resolveType (.reference "Shade" .nowhere) palette includes =
      some (.definition (.enum color)) := rfl
  have outside : "Shade" ∉ includes.keys := by decide +kernel
  have missing : palette.lookup "Shade.RED" = none := rfl
  have other : ∀ constant,
      palette.lookup ("Shade" ++ "." ++ "RED") ≠ some (.constant constant) := by
    simp [missing]
  have trail : Trail .empty ⟨.type (.reference "Shade" .nowhere), palette⟩ 1
      ⟨.definition (.enum color), palette⟩ :=
    .lookup (qualify_empty ..) rfl (.replace (.lookup (qualify_empty ..) rfl (.here _)))
  have found := resolveConstant_enumItem (by decide) (by decide) outside resolved rfl other
  exact ⟨resolved,
    found.1.mpr ⟨by decide, 1, by decide, color, ⟨trivial, palette, trail⟩, rfl⟩⟩

/-- A typedef for an enumeration of an include. -/
def tints : Document :=
  ⟨[], [.alias "Tint" (.reference "shared.Color" .nowhere)]⟩

/-- The typedef stands for the enumeration, but its items are not found. -/
theorem resolveConstant_tint :
    let includes : Includes := OrderedMap.empty.insert "shared" palette
    "Tint" ∉ includes.keys ∧
      resolveType (.reference "Tint" .nowhere) tints includes = some (.definition (.enum color)) ∧
      color.item? "RED" = some red ∧ tints.lookup "Tint.RED" = none ∧
      resolveConstant "Tint.RED" tints includes = none := by
  refine ⟨by decide +kernel, rfl, rfl, rfl, ?_⟩
  rw [← Option.isNone_iff_eq_none]
  decide +kernel

end IdlLint.Schema
