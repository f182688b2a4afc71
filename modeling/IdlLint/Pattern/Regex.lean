import IdlLint.Pattern.Fault
import IdlLint.Text.Blank
import IdlLint.Text.Case
import IdlLint.Text.Word

/-! Regular expressions and the search for them in a text. The search goes through the alternatives
in order of preference and takes back a choice when what follows does not match. -/
namespace IdlLint.Pattern

inductive Category where
  | digit | space | word
deriving DecidableEq, Repr, Inhabited

/-- Whether a character belongs to a category, in all scripts or in ASCII only. -/
def Category.contains (ascii : Bool) : Category → Char → Bool
  | .digit, c => if ascii then c.isDigit else Text.isDecimalDigit c
  | .space, c => if ascii then c = ' ' || (9 ≤ c.toNat && c.toNat ≤ 13) else Text.isBlank c
  | .word, c => if ascii then c.isAlphanum || c = '_' else Text.isWord c

/-- A member of a character set. Code points are numbers, because a set may name some that are no
characters. -/
inductive SetItem where
  | code (code : Nat)
  | range (first last : Nat)
  | category (category : Category) (ascii negated : Bool)
deriving DecidableEq, Repr, Inhabited

/-- Whether letters that differ in case only count as the same, in all scripts or in ASCII. -/
inductive CaseRule where
  | exact | ascii | folded
deriving DecidableEq, Repr, Inhabited

inductive Boundary where
  | textStart | textEnd | lineStart | lineEnd
  /-- The end of the text, or the place before a line feed that ends it. -/
  | lastLine
  | word (ascii : Bool)
  /-- Any place that is no boundary of a word, except in an empty text. -/
  | notWord (ascii : Bool)
deriving DecidableEq, Repr, Inhabited

inductive Regex where
  /-- One code point, or any but that one. -/
  | code (code : Nat) (negated : Bool) (rule : CaseRule)
  /-- Any character; a line feed only if `newline`. -/
  | any (newline : Bool)
  | set (items : List SetItem) (negated : Bool) (rule : CaseRule)
  | boundary (boundary : Boundary)
  | sequence (items : List Regex)
  | choice (items : List Regex)
  | repetition (item : Regex) (least : Nat) (most : Option Nat) (greed : Greed)
  | capture (index : Nat) (item : Regex)
  | reference (index : Nat) (rule : CaseRule)
  /-- One expression if a group has been captured, and another if not. -/
  | condition (index : Nat) (present absent : Regex)
  /-- What stands after a place, or before it if `back` says how many characters before. -/
  | look (back : Option Nat) (negated : Bool) (item : Regex)
  | atomic (item : Regex)
deriving Inhabited

/-- A group on the way to a place: where it began last, and where it ended last. -/
structure Group where
  start : Nat
  /-- The text from the start on. -/
  rest : List Char
  stop : Option Nat
deriving DecidableEq, Inhabited

/-- The text of a group, if it has ended after its start. -/
def Group.text? (g : Group) : Option (List Char) :=
  match g.stop with
  | some stop => if g.start ≤ stop then some (g.rest.take (stop - g.start)) else none
  | none => none

/-- A place in a text with the groups met on the way to it. -/
structure Cursor where
  /-- The number of characters before the place. -/
  index : Nat
  /-- What stands before the place, nearest first. -/
  before : List Char
  after : List Char
  groups : List (Nat × Group)
deriving Inhabited

namespace Cursor

/-- One character on. -/
def advance (s : Cursor) : Option (Char × Cursor) :=
  match s.after with
  | c :: rest =>
    some (c, { s with index := s.index + 1, before := c :: s.before, after := rest })
  | [] => none

/-- `count` characters back. -/
def back : Nat → Cursor → Option Cursor
  | 0, s => some s
  | count + 1, s =>
    match s.before with
    | c :: rest => back count { s with index := s.index - 1, before := rest, after := c :: s.after }
    | [] => none

def group? (s : Cursor) (index : Nat) : Option Group :=
  (s.groups.find? fun entry => entry.1 == index).map Prod.snd

def setGroup (s : Cursor) (index : Nat) (group : Group) : Cursor :=
  { s with groups := (index, group) :: s.groups.filter fun entry => entry.1 != index }

/-- Begins a group here. -/
def openGroup (s : Cursor) (index : Nat) : Cursor :=
  s.setGroup index ⟨s.index, s.after, (s.group? index).bind Group.stop⟩

/-- Ends a group here. -/
def closeGroup (s : Cursor) (index : Nat) : Cursor :=
  match s.group? index with
  | some group => s.setGroup index { group with stop := some s.index }
  | none => s

/-- What a group has captured. -/
def captured? (s : Cursor) (index : Nat) : Option (List Char) :=
  (s.group? index).bind Group.text?

end Cursor

namespace CaseRule

/-- The small form of a letter, if case does not count. -/
def small : CaseRule → Nat → Nat
  | .exact, code => code
  | .ascii, code => Text.smallAscii code
  | .folded, code => Text.small code

/-- The other small letters that count as the same. -/
def siblings : CaseRule → Nat → List Nat
  | .folded, code => Text.siblings code
  | _, _ => []

/-- The code points with the small form `code`. -/
def formsOf : CaseRule → Nat → List Nat
  | .exact, code => [code]
  | .ascii, code => if 97 ≤ code && code ≤ 122 then [code, code - 32] else [code]
  | .folded, code => Text.formsOf code

/-- Whether the code point `wanted` of an expression stands for `code`. -/
def same (rule : CaseRule) (wanted code : Nat) : Bool :=
  let letter := rule.small wanted
  rule.small code == letter || (rule.siblings letter).contains (rule.small code)

end CaseRule

/-- The end of the basic plane. -/
def planeEnd : Nat := 0x10000

/-- Whether a member of a set stands for `c`. If case does not count, the small form of `c` is
looked up; beyond the basic plane a single code point is taken as it is written, and a range also
contains a letter if it contains its capital form. -/
def SetItem.contains (rule : CaseRule) (item : SetItem) (c : Char) : Bool :=
  let letter := rule.small c.toNat
  match item with
  | .code wanted =>
    if rule.small wanted < planeEnd then rule.same wanted c.toNat else wanted == letter
  | .range first last =>
    let within (code : Nat) : Bool := first ≤ code && code ≤ last
    match rule with
    | .exact => within c.toNat
    | _ =>
      ((letter :: rule.siblings letter).flatMap rule.formsOf).any
          (fun code => within code && code < planeEnd) ||
        (planeEnd ≤ last && (within letter || within (Text.capital letter)))
  | .category kind ascii negated => kind.contains ascii (Char.ofNat letter) != negated

def Boundary.holds (b : Boundary) (s : Cursor) : Bool :=
  let edge (ascii : Bool) : Bool :=
    s.before.head?.any (Category.word.contains ascii) !=
      s.after.head?.any (Category.word.contains ascii)
  match b with
  | .textStart => s.before.isEmpty
  | .textEnd => s.after.isEmpty
  | .lineStart => s.before.isEmpty || s.before.head? == some '\n'
  | .lineEnd => s.after.isEmpty || s.after.head? == some '\n'
  | .lastLine => s.after.isEmpty || s.after == ['\n']
  | .word ascii => edge ascii
  | .notWord ascii => !edge ascii && !(s.before.isEmpty && s.after.isEmpty)

/-- Reads one character that satisfies `p`. -/
def readChar (p : Char → Bool) (s : Cursor) : Option Cursor :=
  match s.advance with
  | some (c, t) => if p c then some t else none
  | none => none

/-- Reads `text` from `s`. -/
def spell (rule : CaseRule) : List Char → Cursor → Option Cursor
  | [], s => some s
  | c :: rest, s =>
    (readChar (fun d => rule.small c.toNat == rule.small d.toNat) s).bind (spell rule rest)

/-- Goes on from a place to the end of the match, if there is one. -/
abbrev Continuation := Cursor → Option Cursor

/-- Matches something from a place, and what follows it. -/
abbrev Matcher := Continuation → Cursor → Option Cursor

/-- Repeats `item` up to `fuel` times and goes on with `next`. Beyond the least number, no
repetition starts where the one before it started, which was at `last`. -/
def repeatItem (item : Matcher) (greed : Greed) (next : Continuation) :
    Nat → Nat → Option Nat → Option Nat → Cursor → Option Cursor
  | 0, _, _, _, _ => none
  | fuel + 1, least, most, last, s =>
    let once (last : Option Nat) (t : Cursor) : Option Cursor :=
      repeatItem item greed next fuel (least - 1) (most.map (· - 1)) last t
    let again : Unit → Option Cursor := fun _ =>
      if most = some 0 ∨ last = some s.index then none
      else item (once (some s.index)) s
    match greed with
    | .greedy => if least ≠ 0 then item (once last) s else (again ()).orElse fun _ => next s
    | .lazy => if least ≠ 0 then item (once last) s else (next s).orElse again
    | .possessive =>
      if least ≠ 0 then (item some s).bind (once last)
      else if most = some 0 ∨ last = some s.index then next s
      else
        match item some s with
        | some t => once (some s.index) t
        | none => next s

mutual

/-- Matches an expression from a place and goes on from every place where it can end, in order of
preference, until that succeeds. -/
def Regex.matchThen : Regex → Matcher
  | .code code negated rule, next, s =>
    (readChar (fun c => rule.same code c.toNat != negated) s).bind next
  | .any newline, next, s => (readChar (fun c => newline || c != '\n') s).bind next
  | .set items negated rule, next, s =>
    (readChar (fun c => items.any (·.contains rule c) != negated) s).bind next
  | .boundary b, next, s => if b.holds s then next s else none
  | .sequence items, next, s => matchAll items next s
  | .choice items, next, s => matchAny items next s
  | .repetition item least most greed, next, s =>
    repeatItem item.matchThen greed next (s.after.length + least + 2) least most none s
  | .capture index item, next, s =>
    item.matchThen (fun t => next (t.closeGroup index)) (s.openGroup index)
  | .reference index rule, next, s =>
    match s.captured? index with
    | some text => (spell rule text s).bind next
    | none => none
  | .condition index present absent, next, s =>
    if (s.captured? index).isSome then present.matchThen next s else absent.matchThen next s
  | .look back negated item, next, s =>
    match (s.back (back.getD 0)).bind (item.matchThen some) with
    | some t => if negated then none else next { s with groups := t.groups }
    | none => if negated then next s else none
  | .atomic item, next, s => (item.matchThen some s).bind next

def matchAll : List Regex → Matcher
  | [], next, s => next s
  | item :: rest, next, s => item.matchThen (matchAll rest next) s

def matchAny : List Regex → Matcher
  | [], _, _ => none
  | item :: rest, next, s => (item.matchThen next s).orElse fun _ => matchAny rest next s

end

/-- Whether a match starts at a place or later. -/
def searchFrom (regex : Regex) (index : Nat) (before : List Char) : List Char → Bool
  | [] => (regex.matchThen some ⟨index, before, [], []⟩).isSome
  | c :: after =>
    (regex.matchThen some ⟨index, before, c :: after, []⟩).isSome ||
      searchFrom regex (index + 1) (c :: before) after

/-- Whether the expression matches somewhere in the text. -/
def Regex.search (regex : Regex) (text : List Char) : Bool :=
  searchFrom regex 0 [] text

end IdlLint.Pattern
