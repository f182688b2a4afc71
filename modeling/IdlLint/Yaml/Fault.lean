import IdlLint.Config.Moment
import IdlLint.Number.Limit
import IdlLint.Text.Quoted

/-! Why a text does not stand for data. -/
namespace IdlLint.Yaml

open IdlLint.Config

inductive Fault where
  | malformed
  /-- A decimal integer has too many digits. -/
  | excessiveDigits (count : Nat)
  | badInteger (base : Nat) (text : List Char)
  | badFloat (text : List Char)
  | badBoolean (text : List Char)
  /-- A number has no characters. -/
  | noCharacters
  /-- A number in base sixty has too many parts. -/
  | tooManyParts
  | badTimestamp
  /-- A mapping stands where a timestamp is due. -/
  | timestampMapping
  | calendar (fault : CalendarFault)
  /-- An escape stands for no code point. -/
  | badCode
  | codeTooLarge
  /-- The default value of a mapping leads back to the mapping. -/
  | endless
deriving DecidableEq, Repr, Inhabited

def Fault.message : Fault → String
  | .malformed => "..."
  | .excessiveDigits count => unreadableMessage count
  | .badInteger base text =>
    "invalid literal for int() with base " ++ toString base ++ ": " ++
      String.ofList ((Text.quoted text).toList.take 200)
  | .badFloat text => "could not convert string to float: " ++ Text.quoted text
  | .badBoolean text => Text.quoted text
  | .noCharacters => "string index out of range"
  | .tooManyParts => "int too large to convert to float"
  | .badTimestamp => "'NoneType' object has no attribute 'groupdict'"
  | .timestampMapping => "expected string or bytes-like object, got 'list'"
  | .calendar fault => fault.message
  | .badCode => "chr() arg not in range(0x110000)"
  | .codeTooLarge => codeTooLargeMessage
  | .endless => "maximum recursion depth exceeded"

end IdlLint.Yaml
