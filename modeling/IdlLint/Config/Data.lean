import IdlLint.Config.Moment
import IdlLint.Number.Decimal
import IdlLint.Number.Limit
import IdlLint.Text.Quoted

/-! Settings as they are written, before they are given a meaning: scalars, lists, mappings and sets
with scalar keys. A value may contain itself, so values refer to each other by number. -/
namespace IdlLint.Config

inductive Scalar where
  | null
  | boolean (value : Bool)
  | integer (value : Int)
  | float (value : Binary64)
  | string (value : String)
  | binary (bytes : List UInt8)
  | date (day : Date)
  | moment (time : Moment)
deriving DecidableEq, Repr, Inhabited

namespace Scalar

/-- The value of a scalar that counts as a whole number. -/
def wholeNumber? : Scalar → Option Int
  | .boolean b => some (if b then 1 else 0)
  | .integer n => some n
  | .float x =>
    if x.isNaN || x.isInfinite then none
    else
      let (num, den) := x.ratio
      if num % den = 0 then some (if x.isNegative then -(num / den : Nat) else (num / den : Nat))
      else none
  | _ => none

def integer? : Scalar → Option Int
  | .integer n => some n
  | _ => none

/-- Whether two scalars are the same key. Numbers are the same if they are equal, and the truth
values count as one and zero. What is not a number is only the same as itself, and that only if it
has a sign. -/
def sameKey (a b : Scalar) : Bool :=
  match a.wholeNumber?, b.wholeNumber? with
  | some m, some n => m == n
  | none, none =>
    match a, b with
    | .float x, .float y => (!x.isNaN || x.isNegative) && x == y
    | .moment m, .moment n => m.same n
    | _, _ => a == b
  | _, _ => false

/-- How numbers without digits are written. -/
def decimalStyle : Binary64.DecimalStyle := ⟨"inf", "nan"⟩

/-- The quoted form of bytes, as characters where they are ASCII. -/
def quotedBytes (bytes : List UInt8) : String :=
  let text := bytes.map fun byte => Char.ofNat byte.toNat
  let quote := Text.quoteFor text
  let escape (c : Char) : List Char :=
    if c.toNat < 128 then Text.escapeChar quote c else '\\' :: 'x' :: Text.hexDigits 2 c.toNat
  String.ofList ('b' :: quote :: text.flatMap escape ++ [quote])

/-- The text of a scalar inside a list or a mapping. -/
def inner : Scalar → String
  | .null => "None"
  | .boolean true => "True"
  | .boolean false => "False"
  | .integer n => toString n
  | .float x => x.render decimalStyle
  | .string s => Text.quote s
  | .binary bytes => quotedBytes bytes
  | .date day => day.inner
  | .moment time => time.inner

/-- The text of a scalar on its own. -/
def text : Scalar → String
  | .string s => s
  | .date day => day.text
  | .moment time => time.text
  | value => value.inner

def isWritable : Scalar → Bool
  | .integer n => IdlLint.isWritable n
  | _ => true

end Scalar

/-- A value whose parts are given by their numbers. A mapping keeps its keys in the order of first
mention, no two of them the same. -/
inductive Cell where
  | scalar (value : Scalar)
  | list (items : List Nat)
  | pair (first second : Nat)
  | map (entries : List (Scalar × Nat))
  | set (items : List Scalar)
deriving DecidableEq, Repr, Inhabited

namespace Cell

/-- The number by which an integer is put into a table, of sixty-four bits. -/
def hash (n : Int) : Nat :=
  let rest := Int.ofNat (n.natAbs % (Nat.pow 2 61 - 1))
  let signed := if 0 ≤ n then rest else if rest = 1 then -2 else -rest
  (signed % Int.ofNat (Nat.pow 2 64)).toNat

/-- The number of slots of a table for `count` members. -/
def slotCount (count : Nat) : Nat :=
  if count ≤ 4 then 8 else Nat.pow 2 ((2 * count).log2 + 1)

/-- The first free slot that is tried from `start` on. After ten neighbours the search jumps. -/
def freeSlot (slots : Nat) (taken : List Nat) : Nat → Nat → Nat → Nat
  | 0, start, _ => start
  | fuel + 1, start, rest =>
    let tried := List.range' start (if start + 9 < slots then 10 else 1)
    match tried.find? fun slot => !taken.contains slot with
    | some slot => slot
    | none => freeSlot slots taken fuel ((start * 5 + 1 + rest / 32) % slots) (rest / 32)

/-- Puts integers into a table of slots, one after the other. -/
def fillSlots (slots : Nat) (numbers : List Int) : List (Nat × Int) :=
  numbers.foldl
    (fun table n =>
      let slot := freeSlot slots (table.map Prod.fst) (slots + 64) (hash n % slots) (hash n)
      (slot, n) :: table) []

/-- A set of scalars. Integers among themselves are kept by their slots in a table; other members have
no fixed order and are kept as they come. -/
def ofMembers (members : List Scalar) : Cell :=
  match members.mapM Scalar.integer? with
  | some numbers =>
    let table := fillSlots (slotCount numbers.length) numbers
    .set ((table.mergeSort fun a b => a.1 ≤ b.1).map fun entry => .integer entry.2)
  | none => .set members

/-- Sets the value of `key` where the key stands, or adds it at the end. -/
def put (key : Scalar) (value : Nat) : List (Scalar × Nat) → List (Scalar × Nat)
  | [] => [(key, value)]
  | entry :: rest =>
    if entry.1.sameKey key then (entry.1, value) :: rest else entry :: put key value rest

/-- The mapping that results from setting one key after another. -/
def ofEntries (entries : List (Scalar × Nat)) : Cell :=
  .map (entries.foldl (fun read entry => put entry.1 entry.2 read) [])

/-- The numbers of the parts. -/
def parts : Cell → List Nat
  | .scalar _ | .set _ => []
  | .list items => items
  | .pair first second => [first, second]
  | .map entries => entries.map Prod.snd

/-- The scalars of a value itself. -/
def scalars : Cell → List Scalar
  | .scalar value => [value]
  | .list _ | .pair _ _ => []
  | .map entries => entries.map Prod.fst
  | .set items => items

/-- The text of a value, given the texts of its parts. -/
def render (inner : Nat → String) : Cell → String
  | .scalar value => value.inner
  | .list items => "[" ++ ", ".intercalate (items.map inner) ++ "]"
  | .pair first second => "(" ++ inner first ++ ", " ++ inner second ++ ")"
  | .map entries =>
    let texts := entries.map fun entry => entry.1.inner ++ ": " ++ inner entry.2
    "\x7b" ++ ", ".intercalate texts ++ "\x7d"
  | .set [] => "set()"
  | .set items => "\x7b" ++ ", ".intercalate (items.map Scalar.inner) ++ "\x7d"

/-- What stands for a value inside itself. -/
def ellipsis : Cell → String
  | .scalar value => value.inner
  | .list _ => "[...]"
  | .pair _ _ => "(...)"
  | .map _ => "\x7b...\x7d"
  | .set _ => "set(...)"

end Cell

/-- One of the values of a table. -/
structure Data where
  cells : Array Cell
  root : Nat
deriving DecidableEq, Repr, Inhabited

namespace Data

/-- A scalar on its own. -/
def ofScalar (value : Scalar) : Data :=
  ⟨#[.scalar value], 0⟩

/-- Nothing. -/
def null : Data := .ofScalar .null

def cellAt (cells : Array Cell) (index : Nat) : Cell :=
  (cells[index]?).getD (.scalar .null)

def cell (data : Data) : Cell :=
  cellAt data.cells data.root

/-- Another value of the same table. -/
def part (data : Data) (index : Nat) : Data :=
  { data with root := index }

/-- The text of a value inside others. -/
def innerAt (cells : Array Cell) : Nat → List Nat → Nat → String
  | 0, _, _ => ""
  | fuel + 1, outer, index =>
    let cell := cellAt cells index
    if outer.contains index then cell.ellipsis
    else cell.render (innerAt cells fuel (index :: outer))

/-- The text of a value on its own. -/
def text (data : Data) : String :=
  match data.cell with
  | .scalar value => value.text
  | _ => innerAt data.cells (data.cells.size + 2) [] data.root

/-- Whether every integer in a value can be written, other than in the values around it. -/
def isWritableAt (cells : Array Cell) : Nat → List Nat → Nat → Bool
  | 0, _, _ => true
  | fuel + 1, outer, index =>
    let cell := cellAt cells index
    outer.contains index ||
      (cell.scalars.all Scalar.isWritable &&
        cell.parts.all (isWritableAt cells fuel (index :: outer)))

/-- Whether every integer in a value can be written. -/
def isWritable (data : Data) : Bool :=
  isWritableAt data.cells (data.cells.size + 2) [] data.root

/-- The value of a key of a mapping. -/
def lookup (data : Data) (entries : List (Scalar × Nat)) (key : String) : Data :=
  match entries.find? fun entry => entry.1 == .string key with
  | some (_, index) => data.part index
  | none => .null

end Data

end IdlLint.Config
