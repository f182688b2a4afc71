import IdlLint.Proofs.LineFeeds
import IdlLint.Proofs.NodeWords
import IdlLint.Proofs.RunCompletion

/-! What the checks of the linter say. Most of them use words of their own and of the document, which
stand on one line. Two of them repeat what a string literal was decoded to, or a text of the
settings. -/
namespace IdlLint

open IdlLint.Config
open IdlLint.Schema

namespace Rules

variable {settings : Settings} {ctx : Context} {node : Node}

/-- What a check of single nodes can say at a node. -/
inductive Says (settings : Settings) (ctx : Context) : Node → Diagnostic → Prop where
  /-- Something that stands on one line, but for the name of the file. -/
  | plain {node : Node} (position : Position) {severity message : String}
      (grade : lineFeeds severity = 0) (words : lineFeeds message = 0) :
      Says settings ctx node (ctx.report severity position message)
  /-- The path of an include, as it was decoded. -/
  | restricted (header : Include) (rule : ctx.ruleId = "include.restricted") :
      Says settings ctx (.include header)
        (ctx.error header.position ("\"" ++ header.path ++ "\" is a restricted import"))
  /-- The name of a package, as it was decoded, and the pattern that it does not fit. -/
  | mismatched (scope : Scope) {pattern : PatternRule} (known : pattern ∈ settings.namespacePatterns)
      (rule : ctx.ruleId = "namespace.patterns") :
      Says settings ctx (.scope scope) (ctx.error scope.position (patternMessage scope pattern))

private theorem Says.error {message : String} (position : Position) (words : lineFeeds message = 0) :
    Says settings ctx node (ctx.error position message) :=
  .plain position (lineFeeds_literal rfl) words

private theorem Says.warning {message : String} (position : Position)
    (words : lineFeeds message = 0) : Says settings ctx node (ctx.warning position message) :=
  .plain position (lineFeeds_literal rfl) words

/-- What can come of showing a node to a check: findings, or a failure that is told on one line. -/
def Answered (settings : Settings) (ctx : Context) (node : Node) :
    Except Failure (List Diagnostic) → Prop
  | .ok found => ∀ d ∈ found, Says settings ctx node d
  | .error failure => lineFeeds failure.message = 0

private theorem answered_nil : Answered settings ctx node (.ok []) :=
  List.forall_mem_nil _

private theorem answered_one {d : Diagnostic} (said : Says settings ctx node d) :
    Answered settings ctx node (.ok [d]) :=
  List.forall_mem_singleton.mpr said

private theorem answered_if {d : Diagnostic} (b : Prop) [Decidable b]
    (said : Says settings ctx node d) :
    Answered settings ctx node (.ok (if b then [d] else [])) := by
  split
  · exact answered_one said
  · exact answered_nil

private theorem answered_unless {d : Diagnostic} (b : Prop) [Decidable b]
    (said : Says settings ctx node d) :
    Answered settings ctx node (.ok (if b then [] else [d])) := by
  split
  · exact answered_nil
  · exact answered_one said

private theorem answered_guarded {d : Diagnostic} {failure : Failure} (a b : Prop) [Decidable a]
    [Decidable b] (said : Says settings ctx node d) (told : lineFeeds failure.message = 0) :
    Answered settings ctx node (if a then .ok [] else if b then .ok [d] else .error failure) := by
  split_ifs
  · exact answered_nil
  · exact answered_one said
  · exact told

/-- A check of single nodes that answers in this way wherever the words of the node stand on one
line. -/
def Speaks (settings : Settings) (c : NodeCheck) : Prop :=
  ∀ ctx node, ctx.ruleId = c.ruleId → node.kind ∈ c.kinds →
    (∀ word ∈ node.words, lineFeeds word = 0) → Answered settings ctx node (c.run ctx node)

/-! ### Rules about names -/

private theorem speaks_constantReference : Speaks settings constantReference := by
  intro ctx node _ _ words
  cases node with
  | value value =>
    cases value with
    | reference name position =>
      refine answered_unless _ (.error position ?_)
      have named := words name (List.mem_singleton.mpr rfl)
      exact lineFeeds_framed (lineFeeds_literal rfl) named (lineFeeds_literal rfl)
    | _ => exact answered_nil
  | _ => exact answered_nil

/-- The names that can be reserved are words. -/
theorem name_mem_words {name : String} (named : node.name? = some name)
    (kind : node.kind ∈ (namesReserved []).kinds) : name ∈ node.words := by
  cases node with
  | constant | typedef | enum | enumItem | struct | field | service | function =>
    cases named
    exact List.mem_singleton.mpr rfl
  | type type => cases type <;> exact absurd kind (of_decide_eq_false rfl)
  | value value => cases value <;> exact absurd kind (of_decide_eq_false rfl)
  | _ => exact absurd kind (of_decide_eq_false rfl)

private theorem speaks_namesReserved (reserved : List String) :
    Speaks settings (namesReserved reserved) := by
  intro ctx node _ kind words
  unfold namesReserved
  dsimp only
  cases named : node.name? with
  | none => exact answered_nil
  | some name =>
    refine answered_if _ (.error _ ?_)
    have named := words name (name_mem_words named kind)
    exact lineFeeds_framed (lineFeeds_literal rfl) named (lineFeeds_literal rfl)

private theorem speaks_namespacePatterns :
    Speaks settings (namespacePatterns settings.namespacePatterns) := by
  intro ctx node rule _ _
  cases node with
  | scope scope =>
    intro d member
    obtain ⟨pattern, known, made⟩ := List.mem_filterMap.mp member
    split at made
    · cases made
      exact .mismatched scope known rule
    · cases made
  | _ => exact answered_nil

private theorem speaks_includeRestricted (rules : List PatternRule) :
    Speaks settings (includeRestricted rules) := by
  intro ctx node rule _ _
  cases node with
  | «include» header => exact answered_if _ (.restricted header rule)
  | _ => exact answered_nil

/-! ### Rules about numbers -/

private theorem speaks_enumSize (limits : SizeLimits) : Speaks settings (enumSize limits) := by
  intro ctx node _ _ words
  cases node with
  | enum enum =>
    have named := words enum.name (List.mem_singleton.mpr rfl)
    have plain : ∀ limit : Nat, lineFeeds ("enumeration '" ++ enum.name ++ "' has more than " ++
        toString limit ++ " items") = 0 := by
      intro limit
      refine lineFeeds_framed ?_ (lineFeeds_nat limit) (lineFeeds_literal rfl)
      exact lineFeeds_framed (lineFeeds_literal rfl) named (lineFeeds_literal rfl)
    unfold enumSize
    dsimp only
    split
    · exact answered_one (.error _ (plain _))
    · exact answered_one (.warning _ (plain _))
    · exact answered_nil
  | _ => exact answered_nil

private theorem speaks_fieldIdMissing : Speaks settings fieldIdMissing := by
  intro ctx node _ _ words
  cases node with
  | field field =>
    refine answered_if _ (.error _ ?_)
    have named := words field.name (List.mem_singleton.mpr rfl)
    exact lineFeeds_framed (lineFeeds_literal rfl) named (lineFeeds_literal rfl)
  | _ => exact answered_nil

private theorem lineFeeds_unwritable : lineFeeds Failure.unwritable.message = 0 :=
  lineFeeds_joined (lineFeeds_literal rfl) (lineFeeds_literal rfl)

private theorem speaks_fieldIdNegative : Speaks settings fieldIdNegative := by
  intro ctx node _ _ words
  cases node with
  | field field =>
    unfold fieldIdNegative
    dsimp only
    cases field.id with
    | none => exact answered_nil
    | some id =>
      refine answered_guarded _ _ (.error _ ?_) lineFeeds_unwritable
      have named := words field.name (List.mem_singleton.mpr rfl)
      refine lineFeeds_framed ?_ (lineFeeds_int id) (lineFeeds_literal rfl)
      exact lineFeeds_framed (lineFeeds_literal rfl) named (lineFeeds_literal rfl)
  | _ => exact answered_nil

private theorem speaks_fieldIdZero : Speaks settings fieldIdZero := by
  intro ctx node _ _ words
  cases node with
  | field field =>
    refine answered_if _ (.error _ ?_)
    have named := words field.name (List.mem_singleton.mpr rfl)
    exact lineFeeds_framed (lineFeeds_literal rfl) named (lineFeeds_literal rfl)
  | _ => exact answered_nil

/-! ### Rules about types -/

private theorem lineFeeds_baseType (type : BaseType) : lineFeeds type.name = 0 := by
  cases type <;> exact lineFeeds_literal rfl

private theorem lineFeeds_targetKind {target : TypeTarget} {kind : String}
    (known : targetKind target = some kind) : lineFeeds kind = 0 := by
  cases target with
  | type type =>
    cases type with
    | base type => exact Option.some.inj known ▸ lineFeeds_baseType type
    | reference => cases known
    | _ => exact Option.some.inj known ▸ lineFeeds_literal rfl
  | definition definition =>
    cases definition with
    | enum => exact Option.some.inj known ▸ lineFeeds_literal rfl
    | struct struct =>
      rw [← Option.some.inj known]
      cases struct.kind <;> exact lineFeeds_literal rfl
    | _ => cases known

private theorem lineFeeds_writtenKind {type : TypeExpr} {name : String}
    (known : writtenKind type = some name) : lineFeeds name = 0 := by
  cases type with
  | base type => exact Option.some.inj known ▸ lineFeeds_baseType type
  | reference => cases known
  | _ => exact Option.some.inj known ▸ lineFeeds_literal rfl

private theorem speaks_setValueType : Speaks settings setValueType := by
  intro ctx node _ _ _
  cases node with
  | type type =>
    cases type with
    | set value _ position => exact answered_unless _ (.error position (lineFeeds_literal rfl))
    | _ => exact answered_nil
  | _ => exact answered_nil

private theorem speaks_mapKeyType : Speaks settings mapKeyType := by
  intro ctx node _ _ _
  cases node with
  | type type =>
    cases type with
    | map key _ _ position => exact answered_unless _ (.error position (lineFeeds_literal rfl))
    | _ => exact answered_nil
  | _ => exact answered_nil

private theorem speaks_mapValueDisallowed (disallowed : List String) :
    Speaks settings (mapValueDisallowed disallowed) := by
  intro ctx node _ _ _
  cases node with
  | type type =>
    cases type with
    | map _ value _ position =>
      unfold mapValueDisallowed
      dsimp only
      cases known : typeKind ctx value with
      | none => exact answered_nil
      | some kind =>
        obtain ⟨target, -, same⟩ := Option.bind_eq_some_iff.mp known
        refine answered_if _ (.error position ?_)
        exact lineFeeds_joined (lineFeeds_literal rfl) (lineFeeds_targetKind same)
    | _ => exact answered_nil
  | _ => exact answered_nil

private theorem speaks_typesDisallowed (disallowed : List String) :
    Speaks settings (typesDisallowed disallowed) := by
  intro ctx node _ _ _
  cases node with
  | type type =>
    unfold typesDisallowed
    dsimp only
    cases known : writtenKind type with
    | none => exact answered_nil
    | some name =>
      refine answered_if _ (.error _ ?_)
      exact lineFeeds_joined (lineFeeds_literal rfl) (lineFeeds_writtenKind known)
  | _ => exact answered_nil

/-- All checks of single nodes speak like this. -/
theorem speaks_all (settings : Settings) :
    ∃ nodes : List NodeCheck, all settings = nodes.map .node ++ [ImportGraph.check] ∧
      ∀ c ∈ nodes, lineFeeds c.ruleId = 0 ∧ Speaks settings c := by
  refine ⟨[_, _, _, _, _, _, _, _, _, _, _, _], rfl, ?_⟩
  simp only [List.forall_mem_cons]
  refine ⟨⟨?_, speaks_constantReference⟩, ⟨?_, speaks_enumSize _⟩, ⟨?_, speaks_fieldIdMissing⟩,
    ⟨?_, speaks_fieldIdNegative⟩, ⟨?_, speaks_fieldIdZero⟩, ⟨?_, speaks_includeRestricted _⟩,
    ⟨?_, speaks_mapKeyType⟩, ⟨?_, speaks_mapValueDisallowed _⟩, ⟨?_, speaks_namesReserved _⟩,
    ⟨?_, speaks_namespacePatterns⟩, ⟨?_, speaks_setValueType⟩, ⟨?_, speaks_typesDisallowed _⟩,
    List.forall_mem_nil _⟩
  all_goals exact lineFeeds_literal rfl

end Rules

end IdlLint
