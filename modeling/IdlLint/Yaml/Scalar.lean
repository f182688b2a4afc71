import IdlLint.Config.Data
import IdlLint.Number.Arithmetic
import IdlLint.Number.Written
import IdlLint.Text.Base64
import IdlLint.Text.Small
import IdlLint.Yaml.Fault
import IdlLint.Yaml.Tag
import IdlLint.Yaml.Timestamp

/-! What scalars stand for. -/
namespace IdlLint.Yaml

open IdlLint.Config

/-- The text without a line feed at its end. -/
def withoutLineFeed (text : List Char) : List Char :=
  if text.getLast? = some '\n' then text.dropLast else text

/-- The tag of a scalar that says itself what it is. A line feed at the end does not count, unless
there is nothing else. -/
def Tag.ofPlain (text : List Char) : Tag :=
  let body := withoutLineFeed text
  if text == ['\n'] then .string
  else if Plain.isBoolean body then .boolean
  else if Plain.isFloat body then .float
  else if Plain.isInteger body then .integer
  else if body == ['<', '<'] then .merge
  else if Plain.isNull body then .null
  else if (Written.ofText? body).any Written.isEvident then .timestamp
  else if body == ['='] then .value
  else if body == ['!'] || body == ['&'] || body == ['*'] then .unknown
  else .string

namespace Plain

def boolean (text : List Char) : Except Fault Bool :=
  let word := String.ofList (Text.smallText text)
  if ["yes", "true", "on"].contains word then .ok true
  else if ["no", "false", "off"].contains word then .ok false
  else .error (.badBoolean (Text.smallText text))

/-- The value of a numeral in some base. -/
def numeral (base : Nat) (text : List Char) : Except Fault Int :=
  match Numeral.integer base text with
  | .ok n => .ok n
  | .error .malformed => .error (.badInteger base text)
  | .error (.excessiveDigits count) => .error (.excessiveDigits count)

/-- The value of an integer without its sign. -/
def magnitude (body : List Char) : Except Fault Int :=
  match body with
  | [] => .error .noCharacters
  | ['0'] => .ok 0
  | '0' :: 'b' :: digits => numeral 2 digits
  | '0' :: 'x' :: digits => numeral 16 digits
  | '0' :: _ => numeral 8 body
  | _ =>
    if body.contains ':' then do
      let values ← (parts body).mapM (numeral 10)
      .ok (values.foldl (fun n value => 60 * n + value) 0)
    else numeral 10 body

/-- The value of an integer. -/
def integer (text : List Char) : Except Fault Int :=
  let digits := text.filter (· != '_')
  match digits with
  | [] => .error .noCharacters
  | '-' :: body => (magnitude body).map fun n => -n
  | '+' :: body => magnitude body
  | body => magnitude body

/-- What stands for no number. Unlike other such values it is the same key everywhere. -/
def notNumber : Binary64 :=
  ⟨UInt64.ofNat (Binary64.nan.unsigned + Nat.pow 2 63)⟩

def floatNumeral (text : List Char) : Except Fault Binary64 :=
  match Binary64.ofText? text with
  | some x => .ok x
  | none => .error (.badFloat text)

/-- The sum of parts in base sixty, the last of which comes first. `unit` is what it counts for. -/
def sexagesimal : Nat → Binary64 → List Binary64 → Except Fault Binary64
  | _, total, [] => .ok total
  | unit, total, part :: rest =>
    let factor := Binary64.ofNat unit
    if factor.isInfinite then .error .tooManyParts
    else sexagesimal (unit * 60) (total.add (part.scale factor)) rest

/-- The value of a number with a point, without its sign. -/
def floatMagnitude (negative : Bool) (body : List Char) : Except Fault Binary64 :=
  let signed (x : Binary64) : Binary64 := if negative then x.negate else x
  if body == ".inf".toList then .ok (.infinity negative)
  else if body == ".nan".toList then .ok notNumber
  else if body.contains ':' then do
    let values ← (parts body).mapM floatNumeral
    .ok (signed (← sexagesimal 1 (.zero false) values.reverse))
  else (floatNumeral body).map signed

/-- The value of a number with a point. -/
def float (text : List Char) : Except Fault Binary64 :=
  match Text.smallText (text.filter (· != '_')) with
  | [] => .error .noCharacters
  | '-' :: body => floatMagnitude true body
  | '+' :: body => floatMagnitude false body
  | body => floatMagnitude false body

/-- The bytes that a text stands for. -/
def binary (text : List Char) : Except Fault (List UInt8) :=
  match if text.all fun c => c.toNat < 128 then Text.Base64.decode? text else none with
  | some bytes => .ok bytes
  | none => .error .malformed

/-- The day or moment that a text stands for. -/
def timestamp (text : List Char) : Except Fault Scalar :=
  match Written.ofText? (withoutLineFeed text) with
  | none => .error .badTimestamp
  | some written =>
    match written.time with
    | none =>
      match written.date.fault? with
      | some fault => .error (.calendar fault)
      | none => .ok (.date written.date)
    | some time =>
      let moment := Written.moment written.date time
      match moment.fault? with
      | some fault => .error (.calendar fault)
      | none => .ok (.moment moment)

end Plain

/-- Whether the tag is one of a scalar. -/
def Tag.isScalar : Tag → Bool
  | .null | .boolean | .integer | .float | .string | .binary | .timestamp => true
  | _ => false

/-- The scalar that a text with a tag stands for. -/
def Tag.read (tag : Tag) (text : List Char) : Except Fault Scalar :=
  match tag with
  | .null => .ok .null
  | .string => .ok (.string (String.ofList text))
  | .boolean => (Plain.boolean text).map .boolean
  | .integer => (Plain.integer text).map .integer
  | .float => (Plain.float text).map .float
  | .binary => (Plain.binary text).map .binary
  | .timestamp => Plain.timestamp text
  | _ => .error .malformed

end IdlLint.Yaml
