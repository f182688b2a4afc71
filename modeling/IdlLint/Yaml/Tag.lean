/-! What nodes say they are. Plain scalars say it by their form. -/
namespace IdlLint.Yaml

inductive Tag where
  | null | boolean | integer | float | string | binary | timestamp
  | sequence | mapping | set
  /-- A mapping written as a sequence of entries. -/
  | pairs
  /-- The key under which other mappings are merged. -/
  | merge
  /-- The key of a default value. -/
  | value
  | unknown
deriving DecidableEq, Repr, Inhabited

namespace Tag

/-- What the names of all known tags begin with. -/
def standard : List Char := "tag:yaml.org,2002:".toList

/-- The tag with a name. -/
def ofName (name : List Char) : Tag :=
  if name.take standard.length != standard then .unknown
  else
    match String.ofList (name.drop standard.length) with
    | "null" => .null
    | "bool" => .boolean
    | "int" => .integer
    | "float" => .float
    | "str" => .string
    | "binary" => .binary
    | "timestamp" => .timestamp
    | "seq" => .sequence
    | "map" => .mapping
    | "set" => .set
    | "omap" | "pairs" => .pairs
    | "merge" => .merge
    | "value" => .value
    | _ => .unknown

end Tag

namespace Plain

def isBoolean (text : List Char) : Bool :=
  ["yes", "Yes", "YES", "true", "True", "TRUE", "on", "On", "ON", "no", "No", "NO", "false",
    "False", "FALSE", "off", "Off", "OFF"].any fun word => word.toList == text

def isNull (text : List Char) : Bool :=
  ["", "~", "null", "Null", "NULL"].any fun word => word.toList == text

/-- The text after its sign. -/
def unsigned : List Char → List Char
  | '+' :: rest => rest
  | '-' :: rest => rest
  | text => text

/-- Whether the text is one character of `first` and any number of `more`. -/
def isRun (first more : Char → Bool) : List Char → Bool
  | [] => false
  | c :: rest => first c && rest.all more

def isDigitOrBlank (c : Char) : Bool :=
  c.isDigit || c = '_'

def isHex (c : Char) : Bool :=
  c.isDigit || ('a' ≤ c && c ≤ 'f') || ('A' ≤ c && c ≤ 'F')

/-- The parts of a text between colons. -/
def parts (text : List Char) : List (List Char) :=
  List.splitOn ':' text

/-- Whether a character can stand in a number in base two. -/
def isBinary (c : Char) : Bool :=
  c = '0' || c = '1' || c = '_'

/-- Whether the text is a number below sixty. -/
def isSixtieth : List Char → Bool
  | [d] => d.isDigit
  | [c, d] => '0' ≤ c && c ≤ '5' && d.isDigit
  | _ => false

/-- Whether the text is decimal digits that do not begin with zero. -/
def isCounting : List Char → Bool :=
  isRun (fun c => c.isDigit && c != '0') isDigitOrBlank

/-- Whether the text is an integer, perhaps in base sixty. -/
def isInteger (text : List Char) : Bool :=
  match unsigned text with
  | '0' :: 'b' :: rest => isRun isBinary isBinary rest
  | '0' :: 'x' :: rest => isRun (fun c => isHex c || c = '_') (fun c => isHex c || c = '_') rest
  | '0' :: rest => rest.all fun c => ('0' ≤ c && c ≤ '7') || c = '_'
  | body =>
    match parts body with
    | first :: more => isCounting first && more.all isSixtieth
    | [] => false

/-- The power of ten of a number, which needs a sign. Nothing is also fine. -/
def isExponent : List Char → Bool
  | [] => true
  | e :: sign :: digits =>
    (e = 'e' || e = 'E') && (sign = '+' || sign = '-') && isRun Char.isDigit Char.isDigit digits
  | _ => false

def isInfinity (text : List Char) : Bool :=
  [".inf", ".Inf", ".INF"].any fun word => word.toList == unsigned text

def isNotNumber (text : List Char) : Bool :=
  [".nan", ".NaN", ".NAN"].any fun word => word.toList == text

/-- Whether the text is a number with a point. Only one that begins with a digit has a sign. -/
def isFloat (text : List Char) : Bool :=
  let body := unsigned text
  let whole := body.takeWhile fun c => isDigitOrBlank c || c = ':'
  let fraction := (body.drop (whole.length + 1)).takeWhile isDigitOrBlank
  let tail := body.drop (whole.length + 1 + fraction.length)
  if isInfinity text || isNotNumber text then true
  else if body[whole.length]? != some '.' then false
  else
    match parts whole with
    | [[]] => text == body && isRun Char.isDigit isDigitOrBlank fraction && isExponent tail
    | [digits] => isRun Char.isDigit isDigitOrBlank digits && isExponent tail
    | first :: more =>
      isRun Char.isDigit isDigitOrBlank first && more.all isSixtieth && tail.isEmpty
    | [] => false

end Plain

end IdlLint.Yaml
