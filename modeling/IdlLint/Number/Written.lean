import IdlLint.Number.Binary64
import IdlLint.Number.Numeral
import IdlLint.Text.Quoted

/-! Floating point numbers as people write them: blanks around them, a sign, single underscores
between the digits, decimal digits of any script, and words for what has no digits. -/
namespace IdlLint.Binary64

/-- Leaves out the underscores between digits. `last` is the character before. -/
def joinDigits (last : Char) : List Char → Option (List Char)
  | [] => if last = '_' then none else some []
  | c :: rest =>
    if c = '_' then if last.isDigit then joinDigits c rest else none
    else if last = '_' && !c.isDigit then none
    else (joinDigits c rest).map (c :: ·)

/-- Whether the text is a number without its sign: digits around an optional point, and an optional
power of ten. -/
def isUnsigned (text : List Char) : Bool :=
  let whole := text.takeWhile Char.isDigit
  let rest := text.drop whole.length
  let fraction := match rest with
    | '.' :: more => more.takeWhile Char.isDigit
    | _ => []
  let tail := if rest.head? = some '.' then rest.drop (fraction.length + 1) else rest
  let isPower : Bool := match tail with
    | [] => true
    | e :: more =>
      let digits := match more with
        | '+' :: digits => digits
        | '-' :: digits => digits
        | digits => digits
      (e = 'e' || e = 'E') && !digits.isEmpty && digits.all Char.isDigit
  (!whole.isEmpty || !fraction.isEmpty) && isPower

/-- The number that a text stands for. -/
def ofText? (text : List Char) : Option Binary64 :=
  let trimmed := ((text.map Numeral.asciiForm).dropWhile Numeral.isAsciiBlank).reverse.dropWhile
    Numeral.isAsciiBlank
  match joinDigits ' ' trimmed.reverse with
  | none => none
  | some joined =>
    let negative := joined.head? = some '-'
    let body := if negative || joined.head? = some '+' then joined.drop 1 else joined
    let word := body.map Char.toLower
    if word == "inf".toList || word == "infinity".toList then some (.infinity negative)
    else if word == "nan".toList then some .nan
    else if isUnsigned body then some (.ofChars joined)
    else none

/-- What is said of a text that is no number. -/
def unreadableMessage (text : List Char) : String :=
  "could not convert string to float: " ++ Text.quoted text

end IdlLint.Binary64
