import IdlLint.Imports.Graph
import IdlLint.Rules.Naming
import IdlLint.Rules.Numbering
import IdlLint.Rules.Typing

/-! All rules, in the order in which they are applied. -/
namespace IdlLint.Rules

open IdlLint.Config

/-- Every check, with the settings it looks at. -/
def all (settings : Settings) : List (Check ImportGraph) :=
  [.node constantReference,
    .node (enumSize settings.enumSize),
    .node fieldIdMissing,
    .node fieldIdNegative,
    .node fieldIdZero,
    .node (includeRestricted settings.includeRestricted),
    .node mapKeyType,
    .node (mapValueDisallowed settings.mapValueDisallowed),
    .node (namesReserved settings.namesReserved),
    .node (namespacePatterns settings.namespacePatterns),
    .node setValueType,
    .node (typesDisallowed settings.typesDisallowed),
    ImportGraph.check]

/-- The checks that the settings enable. -/
def enabled (settings : Settings) : List (Check ImportGraph) :=
  (all settings).filter fun check => settings.isEnabled check.ruleId

end IdlLint.Rules
