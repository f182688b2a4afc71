import IdlLint.Config.Settings
import IdlLint.Proofs.OrderedMap
import Mathlib.Data.List.Forall2

/-! What settings demand of the data that they are made of, one demand after the other: that the value
at a place is of a kind, that a value can be written as a text, that a text is a pattern. Settings are
made of data that meet all demands; otherwise the first one that is not met says what is wrong. -/
namespace IdlLint.Config

/-! ### Demands -/

inductive Demand where
  /-- A value is not of the kind that is due at its place. -/
  | unfit (defect : Defect)
  | text (value : Data)
  /-- The text of a value is a pattern, for what has the text of a key. -/
  | pattern (place : String) (key value : Data)

/-- What comes of a demand that is not met. -/
def Demand.trouble? (library : Library) : Demand → Option (Trouble Defect)
  | .unfit defect => some (.fault defect)
  | .text value =>
    match library.text value with
    | .ok _ => none
    | .error cause => some (.mishap cause)
  | .pattern place key value =>
    match library.text value with
    | .error cause => some (.mishap cause)
    | .ok written =>
      match library.compile written.toList, library.text key with
      | .ok _, _ => none
      | .error (.mishap cause), _ => some (.mishap cause)
      | .error (.fault _), .error cause => some (.mishap cause)
      | .error (.fault error), .ok scope => some (.fault (.badPattern place written scope error))

/-- What is due at a place. Nothing is always good enough. -/
inductive Kind where
  | mapping | texts | limit | patterns

/-- The demands on the items of a list of mappings from keys to patterns, counted from `index`. -/
def patternDemands (place : String) : Nat → List Data → List Demand
  | _, [] => []
  | index, item :: rest =>
    match item.cell with
    | .map entries =>
      (entries.flatMap fun entry =>
        [.pattern place (.ofScalar entry.1) (item.part entry.2), .text (.ofScalar entry.1)]) ++
          patternDemands place (index + 1) rest
    | _ => [.unfit (.entryNotMapping place index)]

/-- The demands on the value at a place. -/
def Kind.demands (place : String) (value : Data) : Kind → List Demand
  | .mapping =>
    match value.cell with
    | .scalar .null => []
    | .map entries => entries.map fun entry => .text (.ofScalar entry.1)
    | _ => [.unfit (.notMapping place)]
  | .texts =>
    match value.cell with
    | .scalar .null => []
    | .list items => items.map fun index => .text (value.part index)
    | _ => [.unfit (.notList place)]
  | .limit =>
    match value.cell with
    | .scalar .null => []
    | .scalar (.integer n) => if n < 0 then [.unfit (.negative place)] else []
    | _ => [.unfit (.notInteger place)]
  | .patterns =>
    match value.cell with
    | .scalar .null => []
    | .list items => patternDemands place 0 (items.map value.part)
    | _ => patternDemands place 0 [value]

/-- A setting: the keys that lead to its place and what is due there. -/
structure Setting where
  keys : List String
  kind : Kind

/-- All settings, in the order in which they are looked at. -/
def settings : List Setting :=
  [⟨["checks"], .mapping⟩, ⟨["checks", "include"], .mapping⟩, ⟨["checks", "map"], .mapping⟩,
    ⟨["checks", "map", "value"], .mapping⟩, ⟨["checks", "names"], .mapping⟩,
    ⟨["checks", "namespace"], .mapping⟩, ⟨["checks", "types"], .mapping⟩, ⟨["includes"], .texts⟩,
    ⟨["checks", "enabled"], .texts⟩, ⟨["checks", "disabled"], .texts⟩,
    ⟨["checks", "enum"], .mapping⟩, ⟨["checks", "enum", "size"], .mapping⟩,
    ⟨["checks", "enum", "size", "warning"], .limit⟩, ⟨["checks", "enum", "size", "error"], .limit⟩,
    ⟨["checks", "include", "restricted"], .patterns⟩,
    ⟨["checks", "map", "value", "disallowed"], .texts⟩, ⟨["checks", "names", "reserved"], .texts⟩,
    ⟨["checks", "namespace", "patterns"], .patterns⟩, ⟨["checks", "types", "disallowed"], .texts⟩]

/-- The value of a key of a mapping, by the texts of the keys; the last of several counts. -/
def under (library : Library) (data : Data) (key : String) : Data :=
  match data.cell with
  | .map entries =>
    ((entries.reverse.find? fun entry =>
      (library.text (.ofScalar entry.1)).toOption = some key).map fun entry =>
        data.part entry.2).getD .null
  | _ => .null

/-- The value at a place. The first key has to be a text itself. -/
def Setting.value (library : Library) (data : Data) (entries : List (Scalar × Nat))
    (s : Setting) : Data :=
  match s.keys with
  | [] => data
  | key :: rest => rest.foldl (under library) (data.lookup entries key)

/-- All that settings demand of data. -/
def Library.demands (library : Library) (data : Data) : List Demand :=
  match data.cell with
  | .scalar .null => []
  | .map entries =>
    settings.flatMap fun s =>
      s.kind.demands (".".intercalate s.keys) (s.value library data entries)
  | _ => [.unfit .wholeNotMapping]

/-! ### Meeting demands -/

section Meets

variable {library : Library} {α β : Type}

/-- A computation fails with the first trouble that some demands make, and has a result of a kind if
they make none. -/
def Meets (library : Library) (demands : List Demand) (Q : α → Prop) (m : Checked α) : Prop :=
  match demands.findSome? (Demand.trouble? library) with
  | some trouble => m = .error trouble
  | none => ∃ a, m = .ok a ∧ Q a

private theorem Meets.pure {Q : α → Prop} {a : α} (holds : Q a) : Meets library [] Q (.ok a) :=
  ⟨a, rfl, holds⟩

private theorem Meets.refuse {Q : α → Prop} (defect : Defect) :
    Meets library [.unfit defect] Q (refuse defect) :=
  rfl

private theorem Meets.bind {first later : List Demand} {Q : α → Prop} {R : β → Prop} {m : Checked α}
    {next : α → Checked β} (one : Meets library first Q m)
    (two : ∀ a, Q a → Meets library later R (next a)) :
    Meets library (first ++ later) R (m >>= next) := by
  unfold Meets at one ⊢
  rw [List.findSome?_append]
  cases found : first.findSome? (Demand.trouble? library) with
  | some trouble =>
    rw [found] at one
    rw [one]
    rfl
  | none =>
    rw [found] at one
    obtain ⟨a, rfl, holds⟩ := one
    exact two a holds

private theorem Meets.map {demands : List Demand} {Q : α → Prop} {R : β → Prop} {m : Checked α}
    (f : α → β) (meets : Meets library demands Q m) (holds : ∀ a, Q a → R (f a)) :
    Meets library demands R (m >>= fun a => .ok (f a)) := by
  rw [← List.append_nil demands]
  exact meets.bind fun a kind => .pure (holds a kind)

private theorem Meets.mapM {demands : α → List Demand} {Q : α → β → Prop} {f : α → Checked β}
    {items : List α} (each : ∀ item, Meets library (demands item) (Q item) (f item)) :
    Meets library (items.flatMap demands) (List.Forall₂ Q items) (items.mapM f) := by
  induction items with
  | nil => exact .pure .nil
  | cons item items ih =>
    rw [List.mapM_cons, List.flatMap_cons]
    exact (each item).bind fun first holds => ih.map (first :: ·) fun _ all => .cons holds all

private theorem textOf_meets (data : Data) :
    Meets library [.text data] (fun text => library.text data = .ok text)
      (textOf library data) := by
  unfold Meets textOf
  cases written : library.text data with
  | ok text => simp [Demand.trouble?, written]
  | error cause => simp [Demand.trouble?, written]

private theorem texts_meets (place : String) (data : Data) :
    Meets library (Kind.texts.demands place data) (fun _ => True) (texts library place data) := by
  unfold Kind.demands texts
  cases data.cell with
  | scalar value =>
    cases value with
    | null => exact .pure trivial
    | _ => exact .refuse _
  | list items =>
    dsimp only
    rw [List.map_eq_flatMap, ← bind_pure (List.mapM _ _)]
    exact (Meets.mapM fun index => textOf_meets (data.part index)).map id fun _ _ => trivial
  | _ => exact .refuse _

/-- The key of an entry by its text. -/
theorem entry_meets (data : Data) (entry : Scalar × Nat) :
    Meets library [.text (.ofScalar entry.1)]
      (fun named => library.text (.ofScalar entry.1) = .ok named.1 ∧ named.2 = data.part entry.2)
      (do
        let name ← textOf library (.ofScalar entry.1)
        .ok (name, data.part entry.2)) :=
  (textOf_meets _).map (·, data.part entry.2) fun _ written => ⟨written, rfl⟩

/-- The entries are looked through from the end, whether by their keys or by the texts of these. -/
theorem find?_named {data : Data} {entries : List (Scalar × Nat)} {named : List (String × Data)}
    (all : List.Forall₂ (fun entry named =>
      library.text (.ofScalar entry.1) = .ok named.1 ∧ named.2 = data.part entry.2) entries named)
    (key : String) :
    (named.reverse.find? fun entry => entry.1 = key).map Prod.snd =
      (entries.reverse.find? fun entry =>
        (library.text (.ofScalar entry.1)).toOption = some key).map fun entry =>
          data.part entry.2 := by
  have reversed := List.rel_reverse all
  generalize entries.reverse = before at reversed ⊢
  generalize named.reverse = after at reversed ⊢
  induction reversed with
  | nil => rfl
  | @cons entry named _ _ first _ ih =>
    obtain ⟨written, part⟩ := first
    rw [List.find?_cons, List.find?_cons, written]
    by_cases same : named.1 = key
    · simp [Except.toOption, same, part]
    · simpa [Except.toOption, same] using ih

/-- A mapping gives for every key the value that the data have under it. -/
theorem mappingAt_meets (place : String) (data : Data) :
    Meets library (Kind.mapping.demands place data)
      (fun m => ∀ key, valueOf m key = under library data key) (mappingAt library place data) := by
  unfold Kind.demands mappingAt under
  cases data.cell with
  | scalar value =>
    cases value with
    | null => exact .pure fun _ => rfl
    | _ => exact .refuse _
  | map entries =>
    dsimp only
    rw [List.map_eq_flatMap]
    refine (Meets.mapM fun entry => entry_meets data entry).map OrderedMap.ofList
      fun named all key => ?_
    rw [valueOf, OrderedMap.get?_ofList, find?_named all]
  | _ => exact .refuse _

private theorem patternRule_meets (place : String) (key : Scalar) (data : Data) :
    Meets library [.pattern place (.ofScalar key) data, .text (.ofScalar key)] (fun _ => True)
      (patternRule library place key data) := by
  unfold patternRule Meets textOf
  simp only [List.findSome?_cons, List.findSome?_nil, Demand.trouble?]
  cases library.text data with
  | error cause => rfl
  | ok written =>
    cases compiled : library.compile written.toList with
    | ok regex =>
      cases library.text (.ofScalar key) with
      | error cause => simp [compiled, bind, Except.bind]
      | ok scope => simp [compiled, bind, Except.bind]
    | error trouble =>
      cases trouble with
      | mishap cause => simp [compiled, bind, Except.bind]
      | fault error =>
        cases library.text (.ofScalar key) with
        | error cause => simp [compiled, bind, Except.bind]
        | ok scope => simp [compiled, bind, Except.bind, refuse]

private theorem patternEntries_meets (place : String) (index : Nat) (items : List Data) :
    Meets library (patternDemands place index items) (fun _ => True)
      (patternEntries library place index items) := by
  induction items generalizing index with
  | nil => exact .pure trivial
  | cons item items ih =>
    unfold patternDemands patternEntries
    cases item.cell with
    | map entries =>
      refine (Meets.mapM fun entry : Scalar × Nat =>
        patternRule_meets place entry.1 (item.part entry.2)).bind fun rules _ => ?_
      exact (ih (index + 1)).map (rules ++ ·) fun _ _ => trivial
    | _ => exact .refuse _

private theorem patternRules_meets (place : String) (data : Data) :
    Meets library (Kind.patterns.demands place data) (fun _ => True)
      (patternRules library place data) := by
  unfold Kind.demands patternRules
  cases data.cell with
  | scalar value =>
    cases value with
    | null => exact .pure trivial
    | _ => exact patternEntries_meets place 0 [data]
  | list items => exact patternEntries_meets place 0 _
  | _ => exact patternEntries_meets place 0 [data]

private theorem limit_meets (place : String) (data : Data) :
    Meets library (Kind.limit.demands place data) (fun _ => True) (limit place data) := by
  unfold Kind.demands limit
  cases data.cell with
  | scalar value =>
    cases value with
    | null => exact .pure trivial
    | integer n =>
      dsimp only
      split
      · exact .refuse _
      · exact .pure trivial
    | _ => exact .refuse _
  | _ => exact .refuse _

/-- The limits for enumerations are looked for at four places. -/
theorem sizeLimits_meets {checks : OrderedMap String Data} {data enum size : Data}
    (known : ∀ key, valueOf checks key = under library data key)
    (atEnum : under library data "enum" = enum) (atSize : under library enum "size" = size) :
    Meets library
      (Kind.mapping.demands "checks.enum" enum ++ (Kind.mapping.demands "checks.enum.size" size ++
        (Kind.limit.demands "checks.enum.size.warning" (under library size "warning") ++
          Kind.limit.demands "checks.enum.size.error" (under library size "error"))))
      (fun _ => True) (sizeLimits library checks) := by
  unfold sizeLimits
  rw [known, atEnum]
  refine (mappingAt_meets _ _).bind fun enums own => ?_
  rw [← own, valueOf] at atSize
  cases found : enums.get? "size" with
  | none =>
    rw [found] at atSize
    subst atSize
    exact .pure trivial
  | some value =>
    rw [found] at atSize
    subst atSize
    refine (mappingAt_meets _ _).bind fun sizes inner => ?_
    rw [inner, inner]
    refine (limit_meets _ _).bind fun warning _ => ?_
    exact (limit_meets _ _).map (SizeLimits.mk warning) fun _ _ => trivial

end Meets

private theorem ofEntries_meets (library : Library) {data : Data} {entries : List (Scalar × Nat)}
    (map : data.cell = .map entries) (source : Option Path) :
    Meets library (library.demands data) (fun _ => True)
      (Settings.ofEntries library data entries source) := by
  unfold Library.demands Settings.ofEntries
  simp only [map, settings, List.flatMap_cons, List.flatMap_nil, Setting.value, List.foldl_cons,
    List.foldl_nil]
  refine (mappingAt_meets _ _).bind fun checks own => ?_
  simp only [own]
  refine (mappingAt_meets _ _).bind fun includes ofIncludes => ?_
  refine (mappingAt_meets _ _).bind fun maps ofMaps => ?_
  simp only [ofMaps]
  refine (mappingAt_meets _ _).bind fun values ofValues => ?_
  refine (mappingAt_meets _ _).bind fun names ofNames => ?_
  refine (mappingAt_meets _ _).bind fun namespaces ofNamespaces => ?_
  refine (mappingAt_meets _ _).bind fun types ofTypes => ?_
  simp only [ofIncludes, ofValues, ofNames, ofNamespaces, ofTypes]
  refine (texts_meets _ _).bind fun _ _ => ?_
  refine (texts_meets _ _).bind fun _ _ => ?_
  refine (texts_meets _ _).bind fun _ _ => ?_
  have group : ∀ a b c d rest : List Demand,
      a ++ (b ++ (c ++ (d ++ rest))) = (a ++ (b ++ (c ++ d))) ++ rest := by simp
  rw [group]
  refine (sizeLimits_meets own rfl rfl).bind fun _ _ => ?_
  refine (patternRules_meets _ _).bind fun _ _ => ?_
  refine (texts_meets _ _).bind fun _ _ => ?_
  refine (texts_meets _ _).bind fun _ _ => ?_
  refine (patternRules_meets _ _).bind fun _ _ => ?_
  exact (texts_meets _ _).bind fun _ _ => .pure trivial

/-- Settings are made of data that meet all demands; the first demand that is not met decides what
comes of other data. -/
theorem ofData_meets (library : Library) (data : Data) (source : Option Path) :
    Meets library (library.demands data) (fun _ => True)
      (Settings.ofData library data source) := by
  cases here : data.cell with
  | map entries =>
    have made := ofEntries_meets library here source
    rwa [Settings.ofData, here]
  | scalar value =>
    unfold Library.demands Settings.ofData
    rw [here]
    cases value with
    | null => exact .pure trivial
    | _ => exact .refuse _
  | _ =>
    unfold Library.demands Settings.ofData
    rw [here]
    exact .refuse _

end IdlLint.Config
