import IdlLint.Number.Limit
import IdlLint.Text.Quoted

/-! What can be wrong with a written regular expression. -/
namespace IdlLint.Pattern

/-- Which of its possible lengths a repetition prefers, and whether it can give them up. -/
inductive Greed where
  | greedy | lazy | possessive
deriving DecidableEq, Repr, Inhabited

/-- What an error calls a repetition. -/
def Greed.operator : Greed → String
  | .greedy => "MAX_REPEAT"
  | .lazy => "MIN_REPEAT"
  | .possessive => "POSSESSIVE_REPEAT"

/-- Names that stand in an expression. -/
inductive NameKind where
  | group | character
deriving DecidableEq, Repr, Inhabited

def NameKind.text : NameKind → String
  | .group => "group name"
  | .character => "character name"

inductive PatternFault where
  | danglingEscape
  | badEscape (text : List Char)
  | incompleteEscape (text : List Char)
  | octalTooLarge (text : List Char)
  | missingBrace
  | undefinedCharacter (name : List Char)
  | badReference (index : Nat)
  | openReference
  | sameLookBehind
  | unterminatedSet
  | badRange (first last : List Char)
  | nothingToRepeat
  | multipleRepeat
  | repeatBounds
  | unterminatedGroup
  | unterminatedComment
  | unbalanced
  | endOfPattern
  | unknownExtension (text : List Char)
  | missingName (kind : NameKind)
  | unterminatedName (terminator : Char)
  | badGroupName (name : List Char)
  | unknownGroupName (name : List Char)
  | repeatedGroupName (name : List Char) (index earlier : Nat)
  | groupZero
  | thirdBranch
  | lateFlags
  | unknownFlag
  | missingFlagEnd
  | missingFlag
  | missingColon
  | localeFlag
  | alphabetFlags
  | alphabetFlagOff
  | globalFlagOn
  | globalFlagOff
  | flagOnAndOff
  | variableLookBehind
  | farLookBehind
  | templateRepetition (greed : Greed)
deriving DecidableEq, Repr, Inhabited

def PatternFault.message : PatternFault → String
  | .danglingEscape => "bad escape (end of pattern)"
  | .badEscape text => "bad escape " ++ String.ofList text
  | .incompleteEscape text => "incomplete escape " ++ String.ofList text
  | .octalTooLarge text =>
    "octal escape value " ++ String.ofList text ++ " outside of range 0-0o377"
  | .missingBrace => "missing \x7b"
  | .undefinedCharacter name => "undefined character name " ++ Text.quoted name
  | .badReference index => "invalid group reference " ++ toString index
  | .openReference => "cannot refer to an open group"
  | .sameLookBehind => "cannot refer to group defined in the same lookbehind subpattern"
  | .unterminatedSet => "unterminated character set"
  | .badRange first last =>
    "bad character range " ++ String.ofList first ++ "-" ++ String.ofList last
  | .nothingToRepeat => "nothing to repeat"
  | .multipleRepeat => "multiple repeat"
  | .repeatBounds => "min repeat greater than max repeat"
  | .unterminatedGroup => "missing ), unterminated subpattern"
  | .unterminatedComment => "missing ), unterminated comment"
  | .unbalanced => "unbalanced parenthesis"
  | .endOfPattern => "unexpected end of pattern"
  | .unknownExtension text => "unknown extension " ++ String.ofList text
  | .missingName kind => "missing " ++ kind.text
  | .unterminatedName terminator =>
    "missing " ++ String.singleton terminator ++ ", unterminated name"
  | .badGroupName name => "bad character in group name " ++ Text.quoted name
  | .unknownGroupName name => "unknown group name " ++ Text.quoted name
  | .repeatedGroupName name index earlier =>
    "redefinition of group name " ++ Text.quoted name ++ " as group " ++ toString index ++
      "; was group " ++ toString earlier
  | .groupZero => "bad group number"
  | .thirdBranch => "conditional backref with more than two branches"
  | .lateFlags => "global flags not at the start of the expression"
  | .unknownFlag => "unknown flag"
  | .missingFlagEnd => "missing -, : or )"
  | .missingFlag => "missing flag"
  | .missingColon => "missing :"
  | .localeFlag => "bad inline flags: cannot use 'L' flag with a str pattern"
  | .alphabetFlags => "bad inline flags: flags 'a', 'u' and 'L' are incompatible"
  | .alphabetFlagOff => "bad inline flags: cannot turn off flags 'a', 'u' and 'L'"
  | .globalFlagOn => "bad inline flags: cannot turn on global flag"
  | .globalFlagOff => "bad inline flags: cannot turn off global flag"
  | .flagOnAndOff => "bad inline flags: flag turned on and off"
  | .variableLookBehind => "look-behind requires fixed-width pattern"
  | .farLookBehind => "looks too much behind"
  | .templateRepetition greed => "internal: unsupported template operator " ++ greed.operator

/-- A fault with its place, counted in characters from the start of the expression. -/
structure PatternError where
  fault : PatternFault
  offset : Option Nat
deriving DecidableEq, Repr, Inhabited

/-- The error as it is shown for `pattern`. Lines are named if the pattern has more than one. -/
def PatternError.message (e : PatternError) (pattern : List Char) : String :=
  match e.offset with
  | none => e.fault.message
  | some offset =>
    let before := pattern.take offset
    let place := e.fault.message ++ " at position " ++ toString offset
    if pattern.contains '\n' then
      let line := before.count '\n' + 1
      let column := (before.reverse.takeWhile (· != '\n')).length + 1
      place ++ " (line " ++ toString line ++ ", column " ++ toString column ++ ")"
    else place

/-- A number or a choice of flags that ends the reading of an expression. -/
inductive PatternOverrun where
  | repetitionTooLarge
  | excessiveDigits (count : Nat)
  | codeTooLarge
  | alphabetClash
deriving DecidableEq, Repr, Inhabited

def PatternOverrun.message : PatternOverrun → String
  | .repetitionTooLarge => "the repetition number is too large"
  | .excessiveDigits count => unreadableMessage count
  | .codeTooLarge => codeTooLargeMessage
  | .alphabetClash => "ASCII and UNICODE flags are incompatible"

/-- Why an expression cannot be used. -/
inductive PatternFailure where
  | invalid (error : PatternError)
  | overrun (excess : PatternOverrun)
deriving DecidableEq, Repr, Inhabited

end IdlLint.Pattern
