import IdlLint.Proofs.CheckDispatch
import IdlLint.Proofs.DocumentWalk
import IdlLint.Proofs.TypeTrail

/-! Documents without annotations. Names stand for the same things and the rules find the same in a
document and in what is left of it without its annotations. -/
namespace IdlLint.Schema

def TypeExpr.bare : TypeExpr → TypeExpr
  | .base type _ position => .base type [] position
  | .map key value _ position => .map key.bare value.bare [] position
  | .list value _ position => .list value.bare [] position
  | .set value _ position => .set value.bare [] position
  | .reference name position => .reference name position

def EnumItem.bare (item : EnumItem) : EnumItem :=
  { item with annotations := [] }

def Field.bare (field : Field) : Field :=
  { field with type := field.type.bare, annotations := [] }

def Function.bare (function : Function) : Function :=
  { function with
    result := function.result.map TypeExpr.bare
    parameters := function.parameters.map Field.bare
    exceptions := function.exceptions.map Field.bare
    annotations := [] }

def Constant.bare (d : Constant) : Constant :=
  { d with type := d.type.bare, annotations := [] }

def Typedef.bare (d : Typedef) : Typedef :=
  { d with type := d.type.bare, annotations := [] }

def Enum.bare (d : Enum) : Enum :=
  { d with items := d.items.map EnumItem.bare, annotations := [] }

def Struct.bare (d : Struct) : Struct :=
  { d with fields := d.fields.map Field.bare, annotations := [] }

def Service.bare (d : Service) : Service :=
  { d with functions := d.functions.map Function.bare, annotations := [] }

def Definition.bare : Definition → Definition
  | .constant d => .constant d.bare
  | .typedef d => .typedef d.bare
  | .enum d => .enum d.bare
  | .struct d => .struct d.bare
  | .service d => .service d.bare

def Document.bare (d : Document) : Document :=
  { d with definitions := d.definitions.map Definition.bare }

/-- The node without the annotations at and below it. -/
def Node.bare : Node → Node
  | .document n => .document n.bare
  | .constant n => .constant n.bare
  | .typedef n => .typedef n.bare
  | .enum n => .enum n.bare
  | .enumItem n => .enumItem n.bare
  | .struct n => .struct n.bare
  | .field n => .field n.bare
  | .service n => .service n.bare
  | .function n => .function n.bare
  | .type t => .type t.bare
  | node => node

@[simp] theorem TypeExpr.bare_bare (t : TypeExpr) : t.bare.bare = t.bare := by
  induction t with
  | map key value annotations position keyBare valueBare => simp [bare, keyBare, valueBare]
  | list value annotations position valueBare => simp [bare, valueBare]
  | set value annotations position valueBare => simp [bare, valueBare]
  | _ => rfl

@[simp] theorem EnumItem.bare_bare (item : EnumItem) : item.bare.bare = item.bare := rfl

@[simp] theorem Field.bare_bare (field : Field) : field.bare.bare = field.bare := by
  simp [bare]

@[simp] theorem Function.bare_bare (function : Function) : function.bare.bare = function.bare := by
  simp [bare, Function.comp_def]

@[simp] theorem Enum.bare_bare (d : Enum) : d.bare.bare = d.bare := by
  simp [bare, Function.comp_def]

@[simp] theorem Definition.bare_bare (d : Definition) : d.bare.bare = d.bare := by
  cases d <;>
    simp [bare, Constant.bare, Typedef.bare, Struct.bare, Service.bare, Function.comp_def]

/-! ### What names stand for -/

private theorem Definition.name_bare (d : Definition) : d.bare.name = d.name := by
  cases d <;> rfl

private theorem Document.lookup_bare (d : Document) (name : String) :
    d.bare.lookup name = (d.lookup name).map Definition.bare := by
  simp only [lookup, bare, List.find?_map, Function.comp_def, Definition.name_bare]

/-- A name is looked up in an included document as it is, or in the document at hand. -/
theorem qualify_bare (name : String) (d : Document) (includes : Includes) :
    qualify name d.bare includes = qualify name d includes ∨
      ∃ localName, qualify name d includes = (localName, d) ∧
        qualify name d.bare includes = (localName, d.bare) := by
  unfold qualify
  dsimp only
  split
  · exact .inr ⟨name, rfl, rfl⟩
  · split
    · exact .inl rfl
    · exact .inr ⟨name, rfl, rfl⟩

def TypeTarget.bare : TypeTarget → TypeTarget
  | .type t => .type t.bare
  | .definition d => .definition d.bare

/-- References and typedefs lead to the same things. -/
theorem follow_bare (includes : Includes) (fuel : Nat) (current : TypeTarget) (owner : Document) :
    (follow includes fuel current.bare owner.bare).map TypeTarget.bare =
      (follow includes fuel current owner).map TypeTarget.bare := by
  induction fuel generalizing current with
  | zero => rfl
  | succ fuel ih =>
    cases current with
    | type t =>
      cases t with
      | reference name position =>
        change (follow includes (fuel + 1) (.type (.reference name position)) owner.bare).map _ = _
        rw [follow_reference, follow_reference]
        rcases qualify_bare name owner includes with same | ⟨localName, here, bare⟩
        · rw [same]
        · rw [here, bare, Document.lookup_bare]
          cases owner.lookup localName with
          | none => rfl
          | some found => exact ih (.definition found)
      | _ => simp [follow, TypeTarget.bare, TypeExpr.bare]
    | definition d =>
      cases d with
      | typedef typedef => exact ih (.type typedef.type)
      | _ => exact congrArg (fun d => some (TypeTarget.definition d)) (Definition.bare_bare _)

private theorem resolveType_bare (t : TypeExpr) (d : Document) (includes : Includes) :
    (resolveType t.bare d.bare includes).map TypeTarget.bare =
      (resolveType t d includes).map TypeTarget.bare :=
  follow_bare includes resolutionDepth (.type t) d

/-- The enumeration that a reference leads to. -/
def TypeTarget.enum? : TypeTarget → Option Enum
  | .definition (.enum enum) => some enum
  | _ => none

/-- The enumeration that a definition is, or that it is another name for. -/
def Definition.enumIn (owner : Document) : Definition → Option Enum
  | .enum d => some d
  | .typedef d => (resolveType d.type owner .empty).bind TypeTarget.enum?
  | _ => none

theorem enumNamed_eq (name : String) (owner : Document) :
    enumNamed name owner = (owner.lookup name).bind (Definition.enumIn owner) := by
  unfold enumNamed
  cases owner.lookup name with
  | none => rfl
  | some found =>
    cases found with
    | typedef d =>
      simp only [Option.bind_some, Definition.enumIn]
      rcases resolveType d.type owner .empty with _ | t | target
      · rfl
      · rfl
      · cases target <;> rfl
    | _ => rfl

private theorem TypeTarget.bind_enum? (target : Option TypeTarget) :
    (target.bind enum?).map Enum.bare = (target.map bare).bind enum? := by
  rcases target with _ | t | d
  · rfl
  · rfl
  · cases d <;> rfl

private theorem enumNamed_bare (name : String) (owner : Document) :
    (enumNamed name owner.bare).map Enum.bare = (enumNamed name owner).map Enum.bare := by
  rw [enumNamed_eq, enumNamed_eq, Document.lookup_bare]
  cases owner.lookup name with
  | none => rfl
  | some found =>
    cases found with
    | enum d => exact congrArg some d.bare_bare
    | typedef d =>
      change ((resolveType d.type.bare owner.bare .empty).bind TypeTarget.enum?).map Enum.bare =
        ((resolveType d.type owner .empty).bind TypeTarget.enum?).map Enum.bare
      rw [TypeTarget.bind_enum?, TypeTarget.bind_enum?, resolveType_bare]
    | _ => rfl

/-- Whether an enumeration has an item called `name`. -/
def Enum.hasItem (name : String) (d : Enum) : Bool :=
  d.items.any fun item => item.name == name

private theorem Enum.hasItem_bare (name : String) (d : Enum) :
    d.bare.hasItem name = d.hasItem name := by
  simp only [hasItem, bare, List.any_map]
  rfl

def Definition.isConstant : Definition → Bool
  | .constant _ => true
  | _ => false

/-- Whether `name` is that of a constant, or of an enumeration and one of its items. -/
def Document.hasConstant (owner : Document) (name : String) : Bool :=
  let (enumName, itemName) := splitLast '.' name.toList
  (owner.lookup name).any Definition.isConstant ||
    !enumName.isEmpty &&
      (enumNamed (String.ofList enumName) owner).any (Enum.hasItem (String.ofList itemName))

private theorem isSome_resolveConstant (name : String) (d : Document) (includes : Includes) :
    (resolveConstant name d includes).isSome =
      (qualify name d includes).2.hasConstant (qualify name d includes).1 := by
  unfold resolveConstant Document.hasConstant
  obtain ⟨localName, owner⟩ := qualify name d includes
  dsimp only
  split
  · rename_i found
    simp [found, Definition.isConstant]
  · rename_i other
    have noConstant : (owner.lookup localName).any Definition.isConstant = false := by
      rcases found : owner.lookup localName with _ | definition
      · rfl
      · cases definition with
        | constant c => exact absurd found (other c)
        | _ => rfl
    rw [noConstant, Bool.false_or]
    split
    · rename_i unqualified
      simp [unqualified]
    · rename_i qualified
      split
      · rename_i found
        simp [found, qualified, Enum.hasItem, List.isSome_find?]
      · rename_i found
        simp [found]

private theorem Document.hasConstant_bare (owner : Document) (name : String) :
    owner.bare.hasConstant name = owner.hasConstant name := by
  have constant : (owner.bare.lookup name).any Definition.isConstant =
      (owner.lookup name).any Definition.isConstant := by
    rw [lookup_bare]
    rcases owner.lookup name with _ | d
    · rfl
    · cases d <;> rfl
  have item (enumName itemName : String) :
      (enumNamed enumName owner.bare).any (Enum.hasItem itemName) =
        (enumNamed enumName owner).any (Enum.hasItem itemName) := by
    have same := congrArg (Option.any (Enum.hasItem itemName)) (enumNamed_bare enumName owner)
    simpa only [Option.any_map, Function.comp_def, Enum.hasItem_bare] using same
  simp only [hasConstant, constant, item]

/-- The same names stand for constants. -/
theorem resolveConstant_bare (name : String) (d : Document) (includes : Includes) :
    (resolveConstant name d.bare includes).isSome = (resolveConstant name d includes).isSome := by
  rw [isSome_resolveConstant, isSome_resolveConstant]
  rcases qualify_bare name d includes with same | ⟨localName, here, bare⟩
  · rw [same]
  · rw [here, bare, Document.hasConstant_bare]

namespace Node

theorem kind_bare (node : Node) : node.bare.kind = node.kind := by
  cases node with
  | type t => cases t <;> rfl
  | _ => rfl

private theorem position_bare (node : Node) : node.bare.position = node.position := by
  cases node with
  | type t => cases t <;> rfl
  | _ => rfl

private theorem name?_bare (node : Node) : node.bare.name? = node.name? := by
  cases node with
  | type t => cases t <;> rfl
  | _ => rfl

end Node

end IdlLint.Schema

namespace IdlLint

open IdlLint.Config
open IdlLint.Schema

def FileContext.bare (file : FileContext) : FileContext :=
  { file with document := file.document.bare }

/-- What is known about a node, without its ancestors and without annotations. -/
def Context.bare (ctx : Context) : Context :=
  ⟨ctx.file.bare, ctx.ruleId, []⟩

namespace Check

variable {σ : Type}

/-- A check that takes no notice of annotations and ancestors. One of the whole run looks at nothing
in or below a definition. -/
inductive Blind : Check σ → Prop
  | node {c : NodeCheck} (run : ∀ ctx node, c.run ctx.bare node.bare = c.run ctx node)
    (notes : .note ∉ c.kinds) : Blind (.node c)
  | run {c : RunCheck σ}
    (visit : ∀ ctx node memory, c.visit ctx.bare node.bare memory = c.visit ctx node memory)
    (outer : ∀ node : Node, node.isInner = true → node.kind ∉ c.kinds) : Blind (.run c)

namespace Blind

variable {check : Check σ} (file : FileContext) (parents : List Node) (node : Node)

theorem meet (blind : check.Blind) : (check.meet file parents node).1.Blind ∧
    check.meet file.bare [] node.bare = check.meet file parents node := by
  cases blind with
  | @node c run notes =>
    have same : c.run ⟨file.bare, c.ruleId, []⟩ node.bare = c.run ⟨file, c.ruleId, parents⟩ node :=
      run ⟨file, c.ruleId, parents⟩ node
    refine ⟨?_, ?_⟩
    · rw [meet_node]
      exact .node run notes
    · dsimp only [Check.meet, Check.ruleId]
      rw [same, Node.position_bare]
      rfl
  | @run c visit outer =>
    have same : c.see ⟨file.bare, c.ruleId, []⟩ node.bare =
        c.see ⟨file, c.ruleId, parents⟩ node := by
      unfold RunCheck.see
      rw [← visit ⟨file, c.ruleId, parents⟩ node c.memory]
      rfl
    refine ⟨?_, ?_⟩
    · simp only [Check.meet, RunCheck.see]
      split
      · exact .run visit outer
      · exact .run visit outer
    · dsimp only [Check.meet, Check.ruleId]
      rw [same, Node.position_bare]
      rfl

end Blind

end Check

namespace Rules

private theorem typeKind_bare (ctx : Context) (t : TypeExpr) :
    typeKind ctx.bare t.bare = typeKind ctx t := by
  have kinds (target : Option TypeTarget) :
      target.bind targetKind = (target.map TypeTarget.bare).bind targetKind := by
    rcases target with _ | t | d
    · rfl
    · cases t <;> rfl
    · cases d <;> rfl
  rw [typeKind, typeKind, kinds, kinds (ctx.resolveType t)]
  exact congrArg (Option.bind · targetKind) (resolveType_bare t ctx.file.document ctx.file.includes)

/-- Whether what a reference leads to is a base type or an enumeration. -/
def isPrimitiveTarget : TypeTarget → Bool
  | .type (.base ..) => true
  | .definition (.enum _) => true
  | _ => false

private theorem isPrimitive_eq (ctx : Context) (t : TypeExpr) :
    isPrimitive ctx t = ((ctx.resolveType t).map TypeTarget.bare).any isPrimitiveTarget := by
  unfold isPrimitive
  rcases ctx.resolveType t with _ | t | d
  · rfl
  · cases t <;> rfl
  · cases d <;> rfl

private theorem isPrimitive_bare (ctx : Context) (t : TypeExpr) :
    isPrimitive ctx.bare t.bare = isPrimitive ctx t := by
  rw [isPrimitive_eq, isPrimitive_eq]
  exact congrArg (Option.any isPrimitiveTarget)
    (resolveType_bare t ctx.file.document ctx.file.includes)

private theorem constantReference_bare (ctx : Context) (node : Node) :
    constantReference.run ctx.bare node.bare = constantReference.run ctx node := by
  cases node with
  | value v =>
    cases v with
    | reference name position =>
      simp only [constantReference, Node.bare, Context.resolveConstant, Context.bare,
        FileContext.bare, resolveConstant_bare]
      rfl
    | _ => rfl
  | _ => rfl

private theorem enumSize_bare (limits : SizeLimits) (ctx : Context) (node : Node) :
    (enumSize limits).run ctx.bare node.bare = (enumSize limits).run ctx node := by
  cases node with
  | enum d =>
    simp only [enumSize, Node.bare, Enum.bare, List.length_map]
    rfl
  | _ => rfl

private theorem mapKeyType_bare (ctx : Context) (node : Node) :
    mapKeyType.run ctx.bare node.bare = mapKeyType.run ctx node := by
  cases node with
  | type t =>
    cases t with
    | map key value annotations position =>
      simp only [mapKeyType, Node.bare, TypeExpr.bare, isPrimitive_bare]
      rfl
    | _ => rfl
  | _ => rfl

private theorem mapValueDisallowed_bare (disallowed : List String) (ctx : Context) (node : Node) :
    (mapValueDisallowed disallowed).run ctx.bare node.bare =
      (mapValueDisallowed disallowed).run ctx node := by
  cases node with
  | type t =>
    cases t with
    | map key value annotations position =>
      simp only [mapValueDisallowed, Node.bare, TypeExpr.bare, typeKind_bare]
      rfl
    | _ => rfl
  | _ => rfl

private theorem namesReserved_bare (reserved : List String) (ctx : Context) (node : Node) :
    (namesReserved reserved).run ctx.bare node.bare = (namesReserved reserved).run ctx node := by
  simp only [namesReserved, Node.name?_bare, Node.position_bare]
  rfl

private theorem setValueType_bare (ctx : Context) (node : Node) :
    setValueType.run ctx.bare node.bare = setValueType.run ctx node := by
  cases node with
  | type t =>
    cases t with
    | set value annotations position =>
      simp only [setValueType, Node.bare, TypeExpr.bare, isPrimitive_bare]
      rfl
    | _ => rfl
  | _ => rfl

private theorem typesDisallowed_bare (disallowed : List String) (ctx : Context) (node : Node) :
    (typesDisallowed disallowed).run ctx.bare node.bare =
      (typesDisallowed disallowed).run ctx node := by
  cases node with
  | type t => cases t <;> rfl
  | _ => rfl

/-- The check for cycles looks at includes alone, whatever it has seen. -/
theorem blind_watcher (graph : ImportGraph) (phase : Phase) :
    (Check.run { ImportGraph.watcher with memory := graph, phase := phase }).Blind := by
  refine .run ?_ ?_
  · intro ctx node memory
    cases node <;> rfl
  · intro node inner asked
    exact Node.kind_ne_include_of_isInner inner (List.mem_singleton.mp asked)

/-- No rule takes notice of annotations. -/
theorem blind_all (settings : Settings) : ∀ check ∈ all settings, check.Blind := by
  have blind {c : NodeCheck} (notes : decide (.note ∉ c.kinds) = true)
      (run : ∀ ctx node, c.run ctx.bare node.bare = c.run ctx node) :
      (Check.node c : Check ImportGraph).Blind := .node run (of_decide_eq_true notes)
  simp only [all, List.forall_mem_cons]
  refine ⟨blind rfl constantReference_bare, blind rfl (enumSize_bare _), blind rfl ?_, blind rfl ?_,
    blind rfl ?_, blind rfl ?_, blind rfl mapKeyType_bare, blind rfl (mapValueDisallowed_bare _),
    blind rfl (namesReserved_bare _), blind rfl ?_, blind rfl setValueType_bare,
    blind rfl (typesDisallowed_bare _), blind_watcher {} .created, by simp⟩
  -- The rules left look at numbers of fields, at includes and at packages.
  all_goals
    intro ctx node
    cases node <;> rfl

end Rules

end IdlLint
