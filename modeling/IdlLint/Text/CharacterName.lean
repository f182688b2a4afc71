import IdlLint.Number.Numeral
import IdlLint.Text.Letter
import IdlLint.Text.Name.Aliases
import IdlLint.Text.Name.Alphabets
import IdlLint.Text.Name.EastAsian
import IdlLint.Text.Name.Historic
import IdlLint.Text.Name.Mathematics
import IdlLint.Text.Name.Pictures
import IdlLint.Text.Name.Scripts
import IdlLint.Text.Name.Signs
import IdlLint.Text.Name.Symbols

/-! Characters by their names. -/
namespace IdlLint.Text

/-- The entries of a table of names. An entry with an at sign gives the code point of the next one;
otherwise code points follow each other. A name may begin with the number of words that it shares
with the name before it. -/
def entries (table : String) : List (List Char) :=
  List.splitOn ';' (table.toList.map fun c => if c = '\n' then ';' else c)

/-- Looks for a name, given by its words, in entries from the code point `code` on. The name before
them consists of `last`. -/
def findName? (name : List (List Char)) (code : Nat) (last : List (List Char)) :
    List (List Char) → Option Nat
  | [] => none
  | entry :: rest =>
    match entry with
    | '@' :: digits => findName? name (Numeral.value 16 digits) last rest
    | [] => findName? name code last rest
    | c :: more =>
      let words :=
        if c.isDigit then last.take (Numeral.digitValue c) ++ List.splitOn ' ' more
        else List.splitOn ' ' entry
      if words == name then some code else findName? name (code + 1) words rest

/-- The tables of names. -/
def nameTables : List String :=
  [alphabetNames, scriptNames, symbolNames, eastAsianNames, historicNames, signNames,
    mathematicNames, pictureNames, aliasNames]

/-- Characters whose names are their code points after a stem. -/
def numberedNames : List (String × List (Nat × Nat)) :=
  [("CJK COMPATIBILITY IDEOGRAPH-", [(0xf900, 0xfa6d), (0xfa70, 0xfad9), (0x2f800, 0x2fa1d)]),
    ("KHITAN SMALL SCRIPT CHARACTER-", [(0x18b00, 0x18cd5)]),
    ("NUSHU CHARACTER-", [(0x1b170, 0x1b2fb)])]

def ideographRanges : List (Nat × Nat) :=
  [(0x3400, 0x4dbf), (0x4e00, 0x9fff), (0x20000, 0x2a6df), (0x2a700, 0x2b738), (0x2b740, 0x2b81d),
    (0x2b820, 0x2cea1), (0x2ceb0, 0x2ebe0), (0x30000, 0x3134a)]

/-- What follows a stem. -/
def afterStem? (stem : String) (name : List Char) : Option (List Char) :=
  if name.take stem.length == stem.toList then some (name.drop stem.length) else none

/-- The value of hexadecimal digits, of which there are four or five. -/
def hexCode? (digits : List Char) : Option Nat :=
  if (digits.length = 4 || digits.length = 5) &&
      digits.all fun c => c.isDigit || ('A' ≤ c && c ≤ 'F') then
    some (Numeral.value 16 digits)
  else none

/-- The code point of an ideograph after its stem. -/
def ideograph? (digits : List Char) : Option Nat :=
  (hexCode? digits).filter (inRanges ideographRanges)

/-- A character whose name is its code point after a stem. -/
def numberedCode? (name : List Char) : Option Nat :=
  numberedNames.findSome? fun (stem, ranges) =>
    (afterStem? stem name).bind fun digits =>
      (hexCode? digits).filter fun code =>
        inRanges ranges code && (digits.length = 4) == (code < 0x10000)

/-- The sounds that begin a syllable of Hangul. -/
def leadingSounds : List String :=
  ["G", "GG", "N", "D", "DD", "R", "M", "B", "BB", "S", "SS", "", "J", "JJ", "C", "K", "T", "P",
    "H"]

def vowelSounds : List String :=
  ["A", "AE", "YA", "YAE", "EO", "E", "YEO", "YE", "O", "WA", "WAE", "OE", "YO", "U", "WEO", "WE",
    "WI", "YU", "EU", "YI", "I"]

/-- The sounds that end a syllable of Hangul. -/
def trailingSounds : List String :=
  ["", "G", "GG", "GS", "N", "NJ", "NH", "D", "L", "LG", "LM", "LB", "LS", "LT", "LP", "LH", "M",
    "B", "BS", "S", "SS", "NG", "J", "C", "K", "T", "P", "H"]

/-- The longest sound with which a text begins, by its place, and the rest of the text. -/
def takeSound? (sounds : List String) (text : List Char) : Option (Nat × List Char) :=
  let fits := sounds.zipIdx.filterMap fun (sound, place) =>
    (afterStem? sound text).map fun rest => (place, rest)
  fits.foldl
    (fun best fit =>
      match best with
      | some (_, rest) => if fit.2.length < rest.length then some fit else best
      | none => some fit)
    none

/-- The code point of a syllable of Hangul by its sounds. -/
def syllable? (sounds : List Char) : Option Nat := do
  let (lead, rest) ← takeSound? leadingSounds sounds
  let (vowel, rest) ← takeSound? vowelSounds rest
  let (trail, rest) ← takeSound? trailingSounds rest
  if rest.isEmpty then some (0xac00 + (lead * 21 + vowel) * 28 + trail) else none

/-- The code point with a name. Small letters count as capitals, except in the names of ideographs
and of syllables of Hangul. -/
def codeNamed? (name : List Char) : Option Nat :=
  match afterStem? "HANGUL SYLLABLE " name, afterStem? "CJK UNIFIED IDEOGRAPH-" name with
  | some sounds, _ => syllable? sounds
  | _, some digits => ideograph? digits
  | none, none =>
    let capitals := name.map Char.toUpper
    (numberedCode? capitals).or
      (nameTables.findSome? fun table => findName? (List.splitOn ' ' capitals) 0 [] (entries table))

end IdlLint.Text
