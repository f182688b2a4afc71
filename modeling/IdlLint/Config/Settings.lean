import IdlLint.Config.Library
import IdlLint.Data.OrderedMap
import IdlLint.Disk.Path
import IdlLint.Text.Blank

/-! The settings of a run: which checks are enabled and what they look for. -/
namespace IdlLint.Config

/-- A regular expression that applies to some files or some languages. -/
structure PatternRule where
  /-- The file name pattern or the language. -/
  scope : String
  pattern : String
  regex : Pattern.Regex
deriving Inhabited

/-- Numbers of items above which a warning or an error is given. -/
structure SizeLimits where
  warning : Option Nat := some 500
  error : Option Nat := some 1000
deriving DecidableEq, Repr, Inhabited

structure Settings where
  includes : List String := []
  enabled : List String := []
  disabled : List String := []
  enumSize : SizeLimits := {}
  includeRestricted : List PatternRule := []
  mapValueDisallowed : List String := []
  namesReserved : List String := []
  namespacePatterns : List PatternRule := []
  typesDisallowed : List String := []
  source : Option Path := none
deriving Inhabited

/-- What is wrong with settings as they are written. A place is given by its dotted name. -/
inductive Defect where
  | wholeNotMapping
  | notList (place : String)
  | notMapping (place : String)
  | entryNotMapping (place : String) (index : Nat)
  | badPattern (place pattern key : String) (error : Pattern.PatternError)
  | notInteger (place : String)
  | negative (place : String)
deriving DecidableEq, Repr, Inhabited

def Defect.message : Defect → String
  | .wholeNotMapping => "configuration must be a YAML mapping"
  | .notList place => place ++ " must be a list"
  | .notMapping place => place ++ " must be a mapping"
  | .entryNotMapping place index =>
    place ++ ": entry at index " ++ toString index ++ " must be a mapping"
  | .badPattern place pattern key error =>
    place ++ ": invalid regular expression '" ++ pattern ++ "' for '" ++ key ++ "': " ++
      error.message pattern.toList
  | .notInteger place => place ++ " must be an integer"
  | .negative place => place ++ " must be non-negative"

/-- Settings are read in order; the first trouble counts. -/
abbrev Checked := Except (Trouble Defect)

def refuse {α : Type} (defect : Defect) : Checked α :=
  .error (.fault defect)

namespace Settings

/-- What the entries looked at so far say about a rule. -/
structure Verdict where
  /-- The length of the entry that decides, or -1 as long as none does. -/
  length : Int := -1
  enabled : Bool := true
deriving DecidableEq, Repr, Inhabited

/-- An entry that enables a rule decides if it is longer than the one that decided so far. -/
def Verdict.enable (rule : String) (v : Verdict) (entry : String) : Verdict :=
  if Text.refines rule entry && v.length < entry.length then ⟨entry.length, true⟩ else v

/-- An entry that disables a rule also decides if it is as long as the one that decided so far. -/
def Verdict.disable (rule : String) (v : Verdict) (entry : String) : Verdict :=
  if Text.refines rule entry && v.length ≤ entry.length then ⟨entry.length, false⟩ else v

/-- Whether a rule is enabled. Entries are rules or dotted beginnings of them, and those that enable
are looked at first. Without an entry for it a rule is enabled. -/
def isEnabled (s : Settings) (rule : String) : Bool :=
  let enabled := s.enabled.foldl (Verdict.enable rule) {}
  (s.disabled.foldl (Verdict.disable rule) enabled).enabled

end Settings

section Reading

variable (library : Library)

/-- The text of a value. -/
def textOf (data : Data) : Checked String :=
  match library.text data with
  | .ok text => .ok text
  | .error cause => .error (.mishap cause)

/-- The texts of a list. Nothing counts as an empty list. -/
def texts (place : String) (data : Data) : Checked (List String) :=
  match data.cell with
  | .scalar .null => .ok []
  | .list items => items.mapM fun index => textOf library (data.part index)
  | _ => refuse (.notList place)

/-- A mapping by the texts of its keys. Nothing counts as an empty mapping. -/
def mappingAt (place : String) (data : Data) : Checked (OrderedMap String Data) :=
  match data.cell with
  | .scalar .null => .ok .empty
  | .map entries => do
    let named ← entries.mapM fun entry => do
      let name ← textOf library (.ofScalar entry.1)
      .ok (name, data.part entry.2)
    .ok (.ofList named)
  | _ => refuse (.notMapping place)

/-- The value of a key, or nothing. -/
def valueOf (m : OrderedMap String Data) (key : String) : Data :=
  (m.get? key).getD .null

/-- A rule with its regular expression. -/
def patternRule (place : String) (key : Scalar) (data : Data) : Checked PatternRule := do
  let pattern ← textOf library data
  match library.compile pattern.toList with
  | .ok regex =>
    let scope ← textOf library (.ofScalar key)
    .ok ⟨scope, pattern, regex⟩
  | .error (.mishap cause) => .error (.mishap cause)
  | .error (.fault error) =>
    let scope ← textOf library (.ofScalar key)
    refuse (.badPattern place pattern scope error)

/-- The rules of a list of mappings, counted from `index`. -/
def patternEntries (place : String) : Nat → List Data → Checked (List PatternRule)
  | _, [] => .ok []
  | index, data :: rest =>
    match data.cell with
    | .map entries => do
      let rules ← entries.mapM fun entry => patternRule library place entry.1 (data.part entry.2)
      let more ← patternEntries place (index + 1) rest
      .ok (rules ++ more)
    | _ => refuse (.entryNotMapping place index)

/-- The rules of a mapping or of a list of mappings. -/
def patternRules (place : String) (data : Data) : Checked (List PatternRule) :=
  match data.cell with
  | .scalar .null => .ok []
  | .list items => patternEntries library place 0 (items.map data.part)
  | _ => patternEntries library place 0 [data]

def limit (place : String) (data : Data) : Checked (Option Nat) :=
  match data.cell with
  | .scalar .null => .ok none
  | .scalar (.integer n) => if n < 0 then refuse (.negative place) else .ok (some n.toNat)
  | _ => refuse (.notInteger place)

/-- The limits for enumerations. A section for the size replaces both defaults. -/
def sizeLimits (checks : OrderedMap String Data) : Checked SizeLimits := do
  let enums ← mappingAt library "checks.enum" (valueOf checks "enum")
  match enums.get? "size" with
  | none => .ok {}
  | some data =>
    let size ← mappingAt library "checks.enum.size" data
    let warning ← limit "checks.enum.size.warning" (valueOf size "warning")
    let error ← limit "checks.enum.size.error" (valueOf size "error")
    .ok ⟨warning, error⟩

/-- The settings of a mapping with the given entries. -/
def Settings.ofEntries (data : Data) (entries : List (Scalar × Nat)) (source : Option Path) :
    Checked Settings := do
  let checks ← mappingAt library "checks" (data.lookup entries "checks")
  let includeSection ← mappingAt library "checks.include" (valueOf checks "include")
  let mapSection ← mappingAt library "checks.map" (valueOf checks "map")
  let mapValueSection ← mappingAt library "checks.map.value" (valueOf mapSection "value")
  let namesSection ← mappingAt library "checks.names" (valueOf checks "names")
  let namespaceSection ← mappingAt library "checks.namespace" (valueOf checks "namespace")
  let typesSection ← mappingAt library "checks.types" (valueOf checks "types")
  let includes ← texts library "includes" (data.lookup entries "includes")
  let enabled ← texts library "checks.enabled" (valueOf checks "enabled")
  let disabled ← texts library "checks.disabled" (valueOf checks "disabled")
  let enumSize ← sizeLimits library checks
  let includeRestricted ←
    patternRules library "checks.include.restricted" (valueOf includeSection "restricted")
  let mapValueDisallowed ←
    texts library "checks.map.value.disallowed" (valueOf mapValueSection "disallowed")
  let namesReserved ← texts library "checks.names.reserved" (valueOf namesSection "reserved")
  let namespacePatterns ←
    patternRules library "checks.namespace.patterns" (valueOf namespaceSection "patterns")
  let typesDisallowed ← texts library "checks.types.disallowed" (valueOf typesSection "disallowed")
  return {
    includes := includes
    enabled := enabled
    disabled := disabled
    enumSize := enumSize
    includeRestricted := includeRestricted
    mapValueDisallowed := mapValueDisallowed
    namesReserved := namesReserved
    namespacePatterns := namespacePatterns
    typesDisallowed := typesDisallowed
    source := source }

/-- The settings that written data stand for. Nothing at all stands for the defaults. -/
def Settings.ofData (data : Data) (source : Option Path) : Checked Settings :=
  match data.cell with
  | .scalar .null => .ok { source := source }
  | .map entries => Settings.ofEntries library data entries source
  | _ => refuse .wholeNotMapping

end Reading

end IdlLint.Config
