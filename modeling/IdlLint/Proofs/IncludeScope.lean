import IdlLint.Proofs.TypeTrail

/-! What an included document is to the documents that include it: which of its definitions they can
name, and when a name in it stands for the same thing wherever it is included. -/
namespace IdlLint.Schema

/-- One include and nothing else. -/
def Includes.only (name : String) (included : Document) : Includes :=
  OrderedMap.empty.insert name included

private theorem Includes.get?_only (name query : String) (included : Document) :
    (only name included).get? query = if name = query then some included else none := by
  rw [only, OrderedMap.get?_insert, OrderedMap.get?_empty]

variable {name qualifier rest : String} {position : Position} {document included : Document}
  {includes includes' : Includes} {definition : Definition}

/-- A name that does not ask for the only include is looked up as it is. -/
theorem qualify_only (unasked : ¬Qualified (qualifier ++ "." ++ name) qualifier name) :
    qualify (qualifier ++ "." ++ name) document (Includes.only qualifier included) =
      (qualifier ++ "." ++ name, document) := by
  rw [← qualify_empty _ document]
  apply qualify_congr
  intro other rest asks
  rw [Includes.get?_only, OrderedMap.get?_empty, if_neg]
  rintro rfl
  obtain ⟨-, rfl⟩ := asks.eq_of_plain asks.plain
  exact unasked asks

private theorem resolveType_included (asks : Qualified name qualifier rest)
    (known : includes.get? qualifier = some included)
    (found : included.lookup rest = some definition)
    (final : (TypeTarget.definition definition).IsFinal) :
    resolveType (.reference name position) document includes = some (.definition definition) := by
  have trail : Trail includes ⟨.type (.reference name position), document⟩ 0
      ⟨.definition definition, included⟩ :=
    .lookup (qualify_included asks known) found (.here _)
  exact trail.follow_eq final resolutionDepth

/-- A name stands for nothing if nothing is called so where it is looked up. -/
theorem resolveType_missing (asked : qualify name document includes = (rest, included))
    (missing : included.lookup rest = none) :
    resolveType (.reference name position) document includes = none := by
  rw [resolveType_lookup, asked, missing]
  rfl

private theorem resolveConstant_included {constant : Constant} (asks : Qualified name qualifier rest)
    (known : includes.get? qualifier = some included)
    (found : included.lookup rest = some (.constant constant)) :
    resolveConstant name document includes = some (.constant constant) := by
  rw [resolveConstant, qualify_included asks known]
  simp only [found]

/-- A constant's name asks for one include at most, in its first step. -/
theorem resolveConstant_congr
    (same : qualify name document includes = qualify name document includes') :
    resolveConstant name document includes = resolveConstant name document includes' := by
  rw [resolveConstant, resolveConstant, same]

/-- Every definition of an included document that is no typedef can be named if the last part of the
path has one dot at most. If it has more, no name asks for the include. -/
theorem Include.reaches_iff (header : Include) {included : Document} {name : String}
    {definition : Definition} (found : included.lookup name = some definition)
    (final : ∀ typedef, definition ≠ .typedef typedef) :
    let written := header.name ++ "." ++ name
    let includes := Includes.only header.name included
    let dots := (Include.afterLast '/' header.path.toList).count '.'
    ((∀ document position,
        resolveType (.reference written position) document includes =
            some (.definition definition) ∧
          ∀ constant, definition = .constant constant →
            resolveConstant written document includes = some (.constant constant)) ↔
      name ≠ "" ∧ dots ≤ 1) ∧
    (2 ≤ dots → ∀ document,
      (∀ type, resolveType type document includes = resolveType type document .empty) ∧
        ∀ other, resolveConstant other document includes =
          resolveConstant other document .empty) := by
  intro written includes dots
  have known : includes.get? header.name = some included := by
    rw [Includes.get?_only, if_pos rfl]
  have plain : '.' ∉ header.name.toList ↔ dots ≤ 1 := by
    rw [header.dot_mem_name_iff]
    omega
  refine ⟨⟨?_, ?_⟩, ?_⟩
  · intro reached
    by_contra unfit
    have unasked : ¬Qualified written header.name name := by
      intro asks
      exact unfit ⟨asks.nonempty, plain.mp asks.plain⟩
    have missing : resolveType (.reference written .nowhere) ⟨[], []⟩ includes = none :=
      resolveType_missing (qualify_only unasked) rfl
    rw [(reached ⟨[], []⟩ .nowhere).1] at missing
    cases missing
  · rintro ⟨nonempty, fits⟩ document position
    have asks : Qualified written header.name name := ⟨rfl, plain.mpr fits, nonempty⟩
    constructor
    · refine resolveType_included asks known found ?_
      rcases TypeTarget.final_or_step (.definition definition) with final | ⟨_, _, same⟩ | ⟨t, same⟩
      · exact final
      · cases same
      · exact absurd (TypeTarget.definition.inj same) (final t)
    · rintro constant rfl
      exact resolveConstant_included asks known found
  · intro many document
    have unknown : ∀ name qualifier rest, Qualified name qualifier rest →
        includes.get? qualifier = OrderedMap.empty.get? qualifier := by
      intro name qualifier rest asks
      rw [Includes.get?_only, OrderedMap.get?_empty, if_neg]
      rintro rfl
      have few := plain.mp asks.plain
      omega
    exact ⟨fun type => follow_congr fun _ name _ _ => unknown name,
      fun other => resolveConstant_congr (qualify_congr (unknown other))⟩

def maximum : Constant :=
  ⟨"MAX", .base .i32 [] .nowhere, .integer 1 .nowhere, [], .nowhere⟩

def limits : Document :=
  ⟨[], [.constant maximum]⟩

theorem Include.reaches_limits :
    limits.lookup "MAX" = some (.constant maximum) ∧ ∀ document position,
      resolveType (.reference "limits.MAX" position) document (.only "limits" limits) =
          some (.definition (.constant maximum)) ∧
        resolveConstant "limits.MAX" document (.only "limits" limits) =
          some (.constant maximum) := by
  have found : limits.lookup "MAX" = some (.constant maximum) := rfl
  have reached := (Include.reaches_iff ⟨"lib/limits.thrift", .nowhere⟩ found (by simp)).1.mpr
    (by decide +kernel)
  exact ⟨found, fun document position =>
    ⟨(reached document position).1, (reached document position).2 _ rfl⟩⟩

/-- A second dot in the name of the file hides the constant. -/
theorem Include.hides_limits :
    (⟨"limits.v1.thrift", .nowhere⟩ : Include).name = "limits.v1" ∧
      limits.lookup "MAX" = some (.constant maximum) ∧
      resolveType (.reference "limits.v1.MAX" .nowhere) ⟨[], []⟩ (.only "limits.v1" limits) = none ∧
      resolveConstant "limits.v1.MAX" ⟨[], []⟩ (.only "limits.v1" limits) = none := by
  refine ⟨by decide +kernel, rfl, ?_, ?_⟩
  · rw [← Option.isNone_iff_eq_none]
    decide +kernel
  · rw [← Option.isNone_iff_eq_none]
    decide +kernel

/-! ### One include among others -/

/-- A structure and nothing else. -/
def structDocument (name : String) (kind : StructKind) : Document :=
  ⟨[], [.struct ⟨name, kind, [], [], .nowhere⟩]⟩

private theorem lookup_structDocument (name : String) (kind : StructKind) :
    (structDocument name kind).lookup name = some (.struct ⟨name, kind, [], [], .nowhere⟩) := by
  simp [structDocument, Document.lookup, Definition.name]

/-- What a reference stands for hangs on the include that it asks for. -/
theorem Qualified.exists_capture (asks : Qualified name qualifier rest) (includes : Includes)
    (position : Position) (owner : Document) {fuel : Nat} (enough : 2 ≤ fuel) :
    ∃ first second,
      follow (includes.insert qualifier first) fuel (.type (.reference name position)) owner ≠
        follow (includes.insert qualifier second) fuel (.type (.reference name position))
          owner := by
  obtain ⟨fuel, rfl⟩ := Nat.exists_eq_add_of_le' enough
  have leads (kind : StructKind) : follow (includes.insert qualifier (structDocument rest kind))
      (fuel + 2) (.type (.reference name position)) owner =
        some (.definition (.struct ⟨rest, kind, [], [], .nowhere⟩)) := by
    rw [follow_reference, qualify_included asks (OrderedMap.get?_insert_self ..),
      lookup_structDocument]
    rfl
  refine ⟨structDocument rest .struct, structDocument rest .union, ?_⟩
  rw [leads, leads]
  simp

/-- If the way from `start` comes to a name that asks for another include, then what `start` stands
for hangs on an include other than `qualifier`. -/
theorem Trail.exists_capture {start finish : Waypoint} {typedefs : Nat}
    (trail : Trail (.only qualifier included) start typedefs finish)
    (reference : finish.target = .type (.reference name position)) {other : String}
    (asks : Qualified name other rest) (foreign : other ≠ qualifier) {fuel : Nat}
    (enough : 2 * typedefs + start.target.turn < fuel) :
    ∃ other ≠ qualifier, ∃ first second,
      follow ((Includes.only qualifier included).insert other first) fuel start.target start.owner ≠
        follow ((Includes.only qualifier included).insert other second) fuel start.target
          start.owner := by
  induction trail generalizing fuel with
  | here point =>
    rw [reference, TypeTarget.turn_type] at enough
    rw [reference]
    exact ⟨other, foreign, asks.exists_capture _ _ _ (by omega)⟩
  | @lookup met localName place owner holder definition typedefs finish asked found rest ih =>
    rw [TypeTarget.turn_type] at enough
    -- The first name that asks for another include decides; the way to it is the same for all.
    by_cases captured : ∃ first rest, Qualified met first rest ∧ first ≠ qualifier
    · obtain ⟨first, rest, asks, foreign⟩ := captured
      exact ⟨first, foreign, asks.exists_capture _ _ _ (by omega)⟩
    · obtain ⟨fuel, rfl⟩ := Nat.exists_eq_add_of_le' (Nat.one_le_of_lt enough)
      obtain ⟨other, foreign, first, second, differ⟩ :=
        @ih reference fuel (by rw [TypeTarget.turn_definition]; omega)
      have same (document : Document) : qualify met owner
          ((Includes.only qualifier included).insert other document) = (localName, holder) := by
        rw [← asked]
        apply qualify_congr
        intro own rest asks
        have here : own = qualifier := by
          by_contra away
          exact captured ⟨own, rest, asks, away⟩
        rw [here, OrderedMap.get?_insert_of_ne _ _ foreign]
      refine ⟨other, foreign, first, second, ?_⟩
      rw [follow_reference, follow_reference, same, same, found]
      exact differ
  | replace rest ih =>
    rw [TypeTarget.turn_definition] at enough
    obtain ⟨fuel, rfl⟩ := Nat.exists_eq_add_of_le' (Nat.one_le_of_lt enough)
    exact ih reference (by rw [TypeTarget.turn_type]; omega)

/-- A name that asks for an include is looked up there, in whatever document it is written. -/
theorem resolveType_owner (asks : Qualified name qualifier rest)
    (known : includes.get? qualifier = some included) (document' : Document) :
    resolveType (.reference name position) document includes =
      resolveType (.reference name position) document' includes := by
  rw [resolveType_lookup, resolveType_lookup, qualify_included asks known,
    qualify_included asks known]

/-- A definition of an included document stands for the same thing in every document that includes
it, exactly if no name on the way from it asks for another include. -/
theorem resolveType_everywhere_iff (included : Document) (qualifier name : String)
    (position : Position) :
    let written := qualifier ++ "." ++ name
    let type : TypeExpr := .reference written position
    (∀ (document document' : Document) (includes includes' : Includes),
        includes.get? qualifier = some included → includes'.get? qualifier = some included →
          resolveType type document includes = resolveType type document' includes') ↔
      Qualified written qualifier name ∧ ∀ typedefs < resolutionDepth / 2, ∀ met,
        Meets (.only qualifier included) ⟨.type type, included⟩ typedefs met →
          ∀ other rest, Qualified met other rest → other = qualifier := by
  intro written type
  have known : (Includes.only qualifier included).get? qualifier = some included := by
    rw [Includes.get?_only, if_pos rfl]
  constructor
  · intro everywhere
    constructor
    · by_contra unasked
      have found : resolveType type (structDocument written .struct)
          (.only qualifier included) = none :=
        (everywhere _ ⟨[], []⟩ _ _ known known).trans
          (resolveType_missing (qualify_only unasked) rfl)
      have trail : Trail (.only qualifier included) ⟨.type type, structDocument written .struct⟩ 0
          ⟨.definition (.struct ⟨written, .struct, [], [], .nowhere⟩),
            structDocument written .struct⟩ :=
        .lookup (qualify_only unasked) (lookup_structDocument ..) (.here _)
      rw [resolveType, trail.follow_eq trivial resolutionDepth] at found
      cases found
    · rintro typedefs few met ⟨place, owner, trail⟩ other rest asks
      by_contra foreign
      have even := resolutionDepth_eq
      have enough : 2 * typedefs + 1 < resolutionDepth := by omega
      obtain ⟨away, distinct, first, second, differ⟩ :=
        trail.exists_capture rfl asks foreign enough
      have keeps (document : Document) : ((Includes.only qualifier included).insert away
          document).get? qualifier = some included := by
        rw [OrderedMap.get?_insert_of_ne _ _ distinct, known]
      exact differ (everywhere included included _ _ (keeps first) (keeps second))
  · rintro ⟨asks, within⟩ document document' includes includes' held held'
    have alone : ∀ others : Includes, others.get? qualifier = some included →
        resolveType type included (.only qualifier included) =
          resolveType type included others := by
      intro others same
      apply follow_congr
      intro typedefs met few meets other rest asked
      rw [TypeTarget.turn_type] at few
      have even := resolutionDepth_eq
      have deep : typedefs < resolutionDepth / 2 := by omega
      rw [within typedefs deep met meets other rest asked, known, same]
    rw [resolveType_owner asks held included, resolveType_owner asks held' included,
      ← alone includes held, ← alone includes' held']

/-- A typedef for a type of an include. -/
def borrowing : Document :=
  ⟨[], [.alias "T" (.reference "other.X" .nowhere)]⟩

/-- The includes of the including document decide what the typedef stands for. -/
theorem resolveType_borrowing :
    let alone := Includes.only "shared" borrowing
    let beside := alone.insert "other" (structDocument "X" .struct)
    let type : TypeExpr := .reference "shared.T" .nowhere
    alone.get? "shared" = some borrowing ∧ beside.get? "shared" = some borrowing ∧
      resolveType type ⟨[], []⟩ alone = none ∧
      ∃ found, resolveType type ⟨[], []⟩ beside = some found := by
  refine ⟨rfl, rfl, ?_, ?_⟩
  · rw [← Option.isNone_iff_eq_none]
    decide +kernel
  · rw [← Option.isSome_iff_exists]
    decide +kernel

end IdlLint.Schema
