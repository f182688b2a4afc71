import IdlLint.Config.Settings
import IdlLint.Lint.Check
import IdlLint.Pattern.Glob
import IdlLint.Text.Lower

/-! Rules about names: which ones are reserved, what packages and includes may be called, and that
names of constants stand for something. -/
namespace IdlLint.Rules

open IdlLint.Config
open IdlLint.Schema

/-- References to constants lead to a constant or an enumeration item. -/
def constantReference : NodeCheck where
  ruleId := "constant.ref"
  kinds := [.reference]
  run ctx node := match node with
    | .value (.reference name position) =>
      .ok (if (ctx.resolveConstant name).isSome then []
        else [ctx.error position
          ("unable to find a constant or enum value named '" ++ name ++ "'")])
    | _ => .ok []

/-- A text in small letters. -/
def lowerText (text : String) : List Char :=
  text.toList.map Text.lower

/-- Definitions, members and functions do not have the names listed, however they are
capitalised. -/
def namesReserved (reserved : List String) : NodeCheck where
  ruleId := "names.reserved"
  kinds := [.struct, .field, .enum, .enumItem, .service, .function, .constant, .typedef]
  run ctx node := match node.name? with
    | some name =>
      .ok (if (reserved.map lowerText).contains (lowerText name) then
          [ctx.error node.position ("'" ++ name ++ "' is a reserved name")]
        else [])
    | none => .ok []

/-- The scope of a pattern that applies to every language. -/
def anyLanguage : String := "*"

/-- What is said of a package name that a pattern does not fit. -/
def patternMessage (scope : Scope) (rule : PatternRule) : String :=
  "\"" ++ scope.name ++ "\" does not match the pattern \"" ++ rule.pattern ++
    "\" for namespace scope \"" ++ scope.language ++ "\""

/-- Package names fit the patterns for their languages. -/
def namespacePatterns (rules : List PatternRule) : NodeCheck where
  ruleId := "namespace.patterns"
  kinds := [.scope]
  run ctx node := match node with
    | .scope scope =>
      .ok (rules.filterMap fun rule =>
        if (rule.scope == scope.language || rule.scope == anyLanguage) &&
            !rule.regex.search scope.name.toList then
          some (ctx.error scope.position (patternMessage scope rule))
        else none)
    | _ => .ok []

/-- Whether a rule about includes applies to a file, by its path or by its name alone. -/
def appliesTo (rule : PatternRule) (filename : String) : Bool :=
  let path := Path.ofString filename
  Pattern.globMatches rule.scope path.toString ||
    Pattern.globMatches rule.scope (path.parts.getLastD "")

/-- Files do not include what the rules for them forbid. -/
def includeRestricted (rules : List PatternRule) : NodeCheck where
  ruleId := "include.restricted"
  kinds := [.include]
  run ctx node := match node with
    | .include header =>
      .ok (if rules.any fun rule =>
            appliesTo rule ctx.file.filename && rule.regex.search header.path.toList then
          [ctx.error header.position ("\"" ++ header.path ++ "\" is a restricted import")]
        else [])
    | _ => .ok []

end IdlLint.Rules
