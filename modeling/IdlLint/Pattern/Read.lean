import IdlLint.Number.Numeral
import IdlLint.Pattern.Width
import IdlLint.Text.CharacterName
import IdlLint.Text.Identifier

/-! The written form of regular expressions. -/
namespace IdlLint.Pattern

/-- A character of a pattern, or a backslash with the character after it. -/
structure Glyph where
  text : List Char
  offset : Nat
deriving DecidableEq, Repr, Inhabited

/-- The glyphs of a pattern, and whether a backslash is left over at its end. -/
def glyphs : Nat → List Char → List Glyph × Bool
  | _, [] => ([], false)
  | _, ['\\'] => ([], true)
  | offset, '\\' :: c :: rest =>
    let (more, dangling) := glyphs (offset + 2) rest
    (⟨['\\', c], offset⟩ :: more, dangling)
  | offset, c :: rest =>
    let (more, dangling) := glyphs (offset + 1) rest
    (⟨[c], offset⟩ :: more, dangling)

inductive Flag where
  | foldCase | multiline | dotAll | verbose | ascii | unicode | template | locale
deriving DecidableEq, Repr, Inhabited

namespace Flag

def ofChar? : Char → Option Flag
  | 'i' => some .foldCase
  | 'm' => some .multiline
  | 's' => some .dotAll
  | 'x' => some .verbose
  | 'a' => some .ascii
  | 'u' => some .unicode
  | 't' => some .template
  | 'L' => some .locale
  | _ => none

/-- Whether a flag says which characters are letters and digits. -/
def isAlphabet (flag : Flag) : Bool :=
  flag = .ascii || flag = .unicode || flag = .locale

end Flag

/-- The flags that are on. -/
abbrev Flags := List Flag

namespace Flags

/-- The flags of a group that turns some on and others off. Its alphabet replaces the one around. -/
def within (outer on off : Flags) : Flags :=
  let kept := if on.any Flag.isAlphabet then outer.filter fun flag => !flag.isAlphabet else outer
  (on ++ kept).filter fun flag => !off.contains flag

def caseRule (flags : Flags) : CaseRule :=
  if !flags.contains .foldCase then .exact
  else if flags.contains .ascii then .ascii
  else .folded

end Flags

structure Reading where
  rest : List Glyph
  /-- The number of characters of the pattern. -/
  size : Nat
  dangling : Bool
  flags : Flags := []
  /-- The number of the next group. -/
  groups : Nat := 1
  /-- The groups that are closed. -/
  widths : GroupWidths := []
  names : List (List Char × Nat) := []
  /-- The number of the next group at the start of the outermost look-behind around this place. -/
  lookBehind : Option Nat := none
  /-- The groups that conditions name by number, with the places of the first such conditions. -/
  conditions : List (Nat × Nat) := []
deriving Inhabited

abbrev ReadM := StateT Reading (Except PatternFailure)

namespace Read

/-- The place of the next glyph. -/
def tell : ReadM Nat := do
  let s ← get
  return match s.rest with
    | g :: _ => g.offset
    | [] => s.size

def failAt {α : Type} (fault : PatternFault) (offset : Nat) : ReadM α :=
  throw (.invalid ⟨fault, some offset⟩)

/-- Fails `back` characters before the next glyph. -/
def fail {α : Type} (fault : PatternFault) (back : Nat) : ReadM α := do
  failAt fault ((← tell) - back)

/-- The text of the next glyph. -/
def peek : ReadM (Option (List Char)) := do
  return (← get).rest.head?.map Glyph.text

/-- A left-over backslash is an error as soon as it would be the next glyph. -/
def checkDangling : ReadM Unit := do
  let s ← get
  if s.rest.isEmpty && s.dangling then failAt .danglingEscape (s.size - 1)

/-- Takes the next glyph. -/
def next : ReadM (Option (List Char)) := do
  let glyph ← peek
  modify fun s => { s with rest := s.rest.tail }
  if glyph.isSome then checkDangling
  return glyph

/-- Takes the next glyph if it is the character `c`. -/
def accept (c : Char) : ReadM Bool := do
  if (← peek) == some [c] then
    let _ ← next
    return true
  else return false

/-- Takes up to `count` glyphs that are characters satisfying `p`. -/
def takeWhile (p : Char → Bool) : Nat → ReadM (List Char)
  | 0 => return []
  | count + 1 => do
    match ← peek with
    | some [c] =>
      if p c then
        let _ ← next
        return c :: (← takeWhile p count)
      else return []
    | _ => return []

/-- Takes a name and the character after it. -/
def takeName (kind : NameKind) (terminator : Char) : Nat → List Char → ReadM (List Char)
  | 0, _ => fail (.missingName kind) 0
  | fuel + 1, name => do
    match ← next with
    | none =>
      if name.isEmpty then fail (.missingName kind) 0
      else fail (.unterminatedName terminator) name.length
    | some text =>
      if text == [terminator] then
        if name.isEmpty then fail (.missingName kind) 1 else return name
      else takeName kind terminator fuel (name ++ text)

/-- Takes a name up to `terminator`. -/
def name (kind : NameKind) (terminator : Char) : ReadM (List Char) := do
  takeName kind terminator ((← get).rest.length + 1) []

def isHex (c : Char) : Bool :=
  c.isDigit || ('a' ≤ c && c ≤ 'f') || ('A' ≤ c && c ≤ 'F')

def isOctal (c : Char) : Bool :=
  '0' ≤ c && c ≤ '7'

/-- The escapes that stand for one character, inside and outside sets. -/
def simpleEscape : Char → Option Char
  | 'a' => some '\x07'
  | 'f' => some '\x0c'
  | 'n' => some '\n'
  | 'r' => some '\r'
  | 't' => some '\t'
  | 'v' => some '\x0b'
  | '\\' => some '\\'
  | _ => none

def categoryEscape (ascii : Bool) : Char → Option SetItem
  | 'd' => some (.category .digit ascii false)
  | 'D' => some (.category .digit ascii true)
  | 's' => some (.category .space ascii false)
  | 'S' => some (.category .space ascii true)
  | 'w' => some (.category .word ascii false)
  | 'W' => some (.category .word ascii true)
  | _ => none

def boundaryEscape (ascii : Bool) : Char → Option Boundary
  | 'A' => some .textStart
  | 'Z' => some .textEnd
  | 'b' => some (.word ascii)
  | 'B' => some (.notWord ascii)
  | _ => none

/-- The code point of an escape with exactly `count` hexadecimal digits. -/
def hexEscape (c : Char) (count : Nat) : ReadM Nat := do
  let digits ← takeWhile isHex count
  let text := '\\' :: c :: digits
  let code := Numeral.value 16 digits
  if digits.length ≠ count then fail (.incompleteEscape text) text.length
  else if code < 0x110000 then return code
  else if code < 0x80000000 then fail (.badEscape text) text.length
  else throw (.overrun .codeTooLarge)

/-- The code point of an escape by name. -/
def namedEscape : ReadM Nat := do
  if ← accept '\x7b' then
    let chosen ← name .character '\x7d'
    match Text.codeNamed? chosen with
    | some code => return code
    | none => fail (.undefinedCharacter chosen) (chosen.length + 4)
  else fail .missingBrace 0

/-- The code point of an octal escape. -/
def octalEscape (digits : List Char) : ReadM Nat :=
  let text := '\\' :: digits
  if 255 < Numeral.value 8 digits then fail (.octalTooLarge text) text.length
  else return Numeral.value 8 digits

/-- The code point of an escape that means the same inside and outside sets. Any character but a
letter or a digit stands for itself. -/
def codeEscape (c : Char) : ReadM Nat :=
  if c = 'x' then hexEscape c 2
  else if c = 'u' then hexEscape c 4
  else if c = 'U' then hexEscape c 8
  else if c = 'N' then namedEscape
  else if c.isAlphanum then fail (.badEscape ['\\', c]) 2
  else return c.toNat

/-- The member of a set that the escape of `c` stands for. -/
def setEscape (c : Char) : ReadM SetItem := do
  if c = 'b' then return .code 8
  else
    match simpleEscape c, categoryEscape ((← get).flags.contains .ascii) c with
    | some d, _ => return .code d.toNat
    | _, some item => return item
    | none, none =>
      if isOctal c then return .code (← octalEscape (c :: (← takeWhile isOctal 2)))
      else return .code (← codeEscape c)

/-- Whether a group is closed. -/
def isClosed (index : Nat) : ReadM Bool := do
  return ((← get).widths.get? index).isSome

/-- Inside a look-behind, only groups that were closed before it can be referred to. -/
def checkLookBehind (index : Nat) : ReadM Unit := do
  match (← get).lookBehind with
  | none => return
  | some limit =>
    if !(← isClosed index) then fail .openReference 0
    else if limit ≤ index then fail .sameLookBehind 0
    else return

/-- A reference to a group, written with `back` characters. -/
def reference (index back : Nat) : ReadM Regex := do
  if !(← isClosed index) then fail .openReference back
  else
    checkLookBehind index
    return .reference index (← get).flags.caseRule

/-- A reference to a group, or a character given by three octal digits. -/
def numberEscape (c : Char) : ReadM Regex := do
  let more ← takeWhile Char.isDigit 1
  let third ← peek
  let octal := match more, third with
    | [d], some [e] => isOctal c && isOctal d && isOctal e
    | _, _ => false
  let s ← get
  if octal then
    let last ← takeWhile isOctal 1
    return .code (← octalEscape (c :: more ++ last)) false s.flags.caseRule
  else
    let digits := c :: more
    let index := Numeral.value 10 digits
    if s.groups ≤ index then fail (.badReference index) digits.length
    else reference index (digits.length + 1)

/-- What the escape of `c` stands for outside sets. -/
def escape (c : Char) : ReadM Regex := do
  let flags := (← get).flags
  let ascii := flags.contains .ascii
  match categoryEscape ascii c, boundaryEscape ascii c, simpleEscape c with
  | some item, _, _ => return .set [item] false flags.caseRule
  | _, some b, _ => return .boundary b
  | _, _, some d => return .code d.toNat false flags.caseRule
  | none, none, none =>
    if c = '0' then
      return .code (← octalEscape (c :: (← takeWhile isOctal 2))) false flags.caseRule
    else if c.isDigit then numberEscape c
    else return .code (← codeEscape c) false flags.caseRule

/-- The member of a set that a glyph stands for. -/
def setItem : List Char → ReadM SetItem
  | ['\\', c] => setEscape c
  | text => return .code (text.headD ' ').toNat

/-- The rest of a set that began at `start`. -/
def setItems (start : Nat) : Nat → List SetItem → ReadM (List SetItem)
  | 0, items => return items
  | fuel + 1, items => do
    match ← next with
    | none => failAt .unterminatedSet start
    | some this =>
      if this == [']'] && !items.isEmpty then return items
      else
        let first ← setItem this
        if ← accept '-' then
          match ← next with
          | none => failAt .unterminatedSet start
          | some that =>
            if that == [']'] then return items ++ [first, .code '-'.toNat]
            else
              let last ← setItem that
              let back := this.length + 1 + that.length
              match first, last with
              | .code lo, .code hi =>
                if hi < lo then fail (.badRange this that) back
                else setItems start fuel (items ++ [.range lo hi])
              | _, _ => fail (.badRange this that) back
        else setItems start fuel (items ++ [first])

/-- The expression for a set. A set of one code point is that code point. -/
def ofSet (items : List SetItem) (negated : Bool) (rule : CaseRule) : Regex :=
  match items.eraseDups with
  | [.code code] => .code code negated rule
  | distinct => .set distinct negated rule

/-- A number of repetitions. -/
def count (digits : List Char) : ReadM Nat :=
  if mostDigits < digits.length then throw (.overrun (.excessiveDigits digits.length))
  else if 0xffffffff ≤ Numeral.value 10 digits then throw (.overrun .repetitionTooLarge)
  else return Numeral.value 10 digits

/-- The bounds after an opening brace, or `none` if they are not bounds. -/
def bounds : ReadM (Option (Nat × Option Nat)) := do
  let saved ← get
  let start ← tell
  let fuel := saved.rest.length
  let lo ← takeWhile Char.isDigit fuel
  let comma ← accept ','
  let hi ← if comma then takeWhile Char.isDigit fuel else pure lo
  if ← accept '\x7d' then
    let least ← count lo
    if hi.isEmpty then return some (least, none)
    else
      let most ← count hi
      if most < least then failAt .repeatBounds start
      else return some (least, some most)
  else
    set saved
    return none

/-- The fault of a glyph that stands where a letter of a flag or `missing` is due. -/
def flagFault (missing : PatternFault) : List Char → PatternFault
  | [c] => if Text.isLetter c then .unknownFlag else missing
  | _ => missing

/-- The flags that are turned on, of which `flag` is next, and the character after them. -/
def flagsOn : Nat → Flags → Flag → ReadM (Flags × Char)
  | 0, _, _ => fail .missingFlagEnd 0
  | fuel + 1, read, flag => do
    let clash := flag.isAlphabet && read.any fun other => other.isAlphabet && other ≠ flag
    if flag = .locale then fail .localeFlag 0
    else if clash then fail .alphabetFlags 0
    else
      match ← next with
      | none => fail .missingFlagEnd 0
      | some text =>
        match text, text.head?.bind Flag.ofChar? with
        | [')'], _ => return (flag :: read, ')')
        | ['-'], _ => return (flag :: read, '-')
        | [':'], _ => return (flag :: read, ':')
        | _, some following => flagsOn fuel (flag :: read) following
        | _, none => fail (flagFault .missingFlagEnd text) text.length

/-- The flags that are turned off, of which `flag` is next, up to a colon. -/
def flagsOff : Nat → Flags → Flag → ReadM Flags
  | 0, _, _ => fail .missingColon 0
  | fuel + 1, read, flag => do
    if flag.isAlphabet then fail .alphabetFlagOff 0
    else
      match ← next with
      | none => fail .missingColon 0
      | some text =>
        match text, text.head?.bind Flag.ofChar? with
        | [':'], _ => return flag :: read
        | _, some following => flagsOff fuel (flag :: read) following
        | _, none => fail (flagFault .missingColon text) text.length

/-- Flags after `(?`, the first of which has been read; there is none before a minus sign. Gives the
flags for a group, or `none` after setting them for the whole expression. -/
def readFlags (first : Option Flag) : ReadM (Option Flags) := do
  let s ← get
  let fuel := s.rest.length + 2
  let (on, stop) ← match first with
    | some flag => flagsOn fuel [] flag
    | none => pure ([], '-')
  if stop = ')' then
    modify fun s => { s with flags := on ++ s.flags }
    return none
  else if on.contains .template then fail .globalFlagOn 1
  else if stop = '-' then
    match ← next with
    | none => fail .missingFlag 0
    | some text =>
      match text.head?.bind Flag.ofChar? with
      | none => fail (flagFault .missingFlag text) text.length
      | some flag =>
        let off ← flagsOff fuel [] flag
        if off.contains .template then fail .globalFlagOff 1
        else if on.any off.contains then fail .flagOnAndOff 1
        else return some (s.flags.within on off)
  else return some (s.flags.within on [])

/-- Opens a capturing group. -/
def openGroup (chosen : Option (List Char)) : ReadM Nat := do
  let s ← get
  let index := s.groups
  match chosen with
  | some chosen =>
    match s.names.find? fun entry => entry.1 == chosen with
    | some (_, earlier) => fail (.repeatedGroupName chosen index earlier) (chosen.length + 1)
    | none => modify fun s => { s with names := s.names ++ [(chosen, index)] }
  | none => pure ()
  modify fun s => { s with groups := index + 1 }
  return index

/-- Closes a group with its contents. -/
def closeGroup (index : Nat) (item : Regex) : ReadM Regex := do
  modify fun s => { s with widths := (index, item.width s.widths) :: s.widths }
  return .capture index item

/-- Takes the name of a group, which is an identifier. -/
def groupName (terminator : Char) : ReadM (List Char) := do
  let chosen ← name .group terminator
  if Text.isIdentifier chosen then return chosen
  else fail (.badGroupName chosen) (chosen.length + 1)

/-- The group with a name that has just been read. -/
def groupNamed (chosen : List Char) : ReadM Nat := do
  match (← get).names.find? fun entry => entry.1 == chosen with
  | some (_, index) => return index
  | none => fail (.unknownGroupName chosen) (chosen.length + 1)

/-- The greatest number of groups. -/
def mostGroups : Int := 0x3fffffff

/-- The group of a condition, given by its name or its number. A number may be that of a later
group. -/
def conditionGroup : ReadM Nat := do
  let chosen ← name .group ')'
  let back := chosen.length + 1
  if Text.isIdentifier chosen then groupNamed chosen
  else
    match Numeral.integer 10 chosen with
    | .error _ => fail (.badGroupName chosen) back
    | .ok number =>
      let index := number.toNat
      let start := (← tell) - back
      if number < 0 then fail (.badGroupName chosen) back
      else if number = 0 then fail .groupZero back
      else if mostGroups ≤ number then fail (.badReference index) back
      else
        modify fun s =>
          if s.conditions.any fun entry => entry.1 == index then s
          else { s with conditions := s.conditions ++ [(index, start)] }
        return index

/-- Skips a comment that began at `start`. -/
def skipComment (start : Nat) : Nat → ReadM Unit
  | 0 => return
  | fuel + 1 => do
    match ← next with
    | none => failAt .unterminatedComment start
    | some text => if text == [')'] then return else skipComment start fuel

/-- Skips the rest of a line of a verbose expression. -/
def skipLine : Nat → ReadM Unit
  | 0 => return
  | fuel + 1 => do
    match ← next with
    | none => return
    | some text => if text == ['\n'] then return else skipLine fuel

/-- The repetition that a character begins: its bounds, or `none` if it stands for itself. -/
def repetitionBounds (c : Char) : ReadM (Option (Nat × Option Nat)) := do
  if c = '?' then return some (0, some 1)
  else if c = '*' then return some (0, none)
  else if c = '+' then return some (1, none)
  else if (← peek) == some ['\x7d'] then return none
  else bounds

/-- Repeats the last of `items`, which are in reverse order. `start` is the place of the sign. -/
def addRepetition (start least : Nat) (most : Option Nat) (items : List Regex) :
    ReadM (List Regex) := do
  match items with
  | [] => failAt .nothingToRepeat start
  | .boundary _ :: _ => failAt .nothingToRepeat start
  | .repetition _ _ _ _ :: _ => failAt .multipleRepeat start
  | item :: rest =>
    if ← accept '?' then return .repetition item least most .lazy :: rest
    else if ← accept '+' then return .repetition item least most .possessive :: rest
    else return .repetition item least most .greedy :: rest

/-- The end of a group that began at `start`. -/
def expectClose (start : Nat) : ReadM Unit := do
  if ← accept ')' then return else failAt .unterminatedGroup start

/-- The items of a sequence, with those of plain groups in their places. -/
def spliced (items : List Regex) : List Regex :=
  items.flatMap fun item =>
    match item with
    | .sequence parts => parts
    | item => [item]

/-- The members of the set that an alternative amounts to, if it does. -/
def setMembers? : List Regex → Option (List SetItem)
  | [.code code false _] => some [.code code]
  | [.set items false _] => some items
  | _ => none

/-- The expression for alternatives. Alternatives that are single characters make one set. -/
def ofAlternatives (alternatives : List (List Regex)) (rule : CaseRule) : List Regex :=
  match alternatives with
  | [single] => single
  | _ =>
    match alternatives.mapM setMembers? with
    | some members => [.set members.flatten.eraseDups false rule]
    | none => [.choice (alternatives.map .sequence)]

mutual

/-- Alternatives up to a closing parenthesis or the end. -/
def choice : Nat → Bool → List (List Regex) → ReadM (List Regex)
  | 0, _, _ => return []
  | fuel + 1, outermost, read => do
    let items ← sequence fuel (outermost && read.isEmpty) []
    let read := read ++ [items]
    if ← accept '|' then choice fuel outermost read
    else return ofAlternatives read (← get).flags.caseRule
termination_by structural fuel => fuel

/-- Items up to a bar, a closing parenthesis or the end. Those read are in reverse order. -/
def sequence : Nat → Bool → List Regex → ReadM (List Regex)
  | 0, _, items => return items
  | fuel + 1, first, items => do
    let start ← tell
    let flags := (← get).flags
    match ← peek with
    | none => return spliced items.reverse
    | some text =>
      if text == ['|'] || text == [')'] then return spliced items.reverse
      else
        let _ ← next
        match text with
        | ['\\', c] => sequence fuel first ((← escape c) :: items)
        | [c] =>
          if flags.contains .verbose && Numeral.isAsciiBlank c then sequence fuel first items
          else if flags.contains .verbose && c = '#' then
            skipLine fuel
            sequence fuel first items
          else if c = '[' then
            let negated ← accept '^'
            let members ← setItems start fuel []
            sequence fuel first (ofSet members negated flags.caseRule :: items)
          else if c = '*' || c = '+' || c = '?' || c = '\x7b' then
            match ← repetitionBounds c with
            | none => sequence fuel first (.code c.toNat false flags.caseRule :: items)
            | some (least, most) =>
              sequence fuel first (← addRepetition start least most items)
          else if c = '.' then sequence fuel first (.any (flags.contains .dotAll) :: items)
          else if c = '^' then
            let b := if flags.contains .multiline then Boundary.lineStart else .textStart
            sequence fuel first (.boundary b :: items)
          else if c = '$' then
            let b := if flags.contains .multiline then Boundary.lineEnd else .lastLine
            sequence fuel first (.boundary b :: items)
          else if c = '(' then
            match ← group fuel start (first && items.isEmpty) with
            | some item => sequence fuel first (item :: items)
            | none => sequence fuel first items
          else sequence fuel first (.code c.toNat false flags.caseRule :: items)
        | _ => return items
termination_by structural fuel => fuel

/-- What follows an opening parenthesis at `start`. Comments and flags give nothing. -/
def group : Nat → Nat → Bool → ReadM (Option Regex)
  | 0, _, _ => return none
  | fuel + 1, start, first => do
    if !(← accept '?') then
      let index ← openGroup none
      let item ← contents fuel start
      return some (← closeGroup index item)
    else
      match ← next with
      | none => fail .endOfPattern 0
      | some [':'] => return some (← contents fuel start)
      | some ['>'] => return some (.atomic (← contents fuel start))
      | some ['#'] =>
        skipComment start fuel
        return none
      | some ['='] => return some (.look none false (← contents fuel start))
      | some ['!'] => return some (.look none true (← contents fuel start))
      | some ['<'] =>
        match ← next with
        | none => fail .endOfPattern 0
        | some text =>
          if text == ['='] || text == ['!'] then
            return some (← lookBehind fuel start (text == ['!']))
          else fail (.unknownExtension ('?' :: '<' :: text)) (text.length + 2)
      | some ['('] => return some (← condition fuel start)
      | some ['P'] =>
        if ← accept '<' then
          let chosen ← groupName '>'
          let index ← openGroup (some chosen)
          let item ← contents fuel start
          return some (← closeGroup index item)
        else if ← accept '=' then
          let chosen ← groupName ')'
          let index ← groupNamed chosen
          return some (← reference index (chosen.length + 1))
        else
          match ← next with
          | none => fail .endOfPattern 0
          | some text => fail (.unknownExtension ('?' :: 'P' :: text)) (text.length + 2)
      | some text =>
        let flag := text.head?.bind Flag.ofChar?
        if flag.isNone && text != ['-'] then
          fail (.unknownExtension ('?' :: text)) (text.length + 1)
        else
          match ← readFlags flag with
          | none => if first then return none else failAt .lateFlags start
          | some flags =>
            let outer := (← get).flags
            modify fun s => { s with flags := flags }
            let item ← contents fuel start
            modify fun s => { s with flags := outer }
            return some (.choice [item])
termination_by structural fuel => fuel

/-- The rest of a group that began at `start`. -/
def contents : Nat → Nat → ReadM Regex
  | 0, _ => return .sequence []
  | fuel + 1, start => do
    let items ← choice fuel false []
    expectClose start
    return .sequence items
termination_by structural fuel => fuel

/-- The rest of a look-behind that began at `start`. -/
def lookBehind : Nat → Nat → Bool → ReadM Regex
  | 0, _, _ => return .sequence []
  | fuel + 1, start, negated => do
    let outer := (← get).lookBehind
    modify fun s => { s with lookBehind := some (outer.getD s.groups) }
    let items ← choice fuel false []
    modify fun s => { s with lookBehind := outer }
    expectClose start
    let item := Regex.sequence items
    return .look (some (item.width (← get).widths).least) negated item
termination_by structural fuel => fuel

/-- The rest of a condition that began at `start`. -/
def condition : Nat → Nat → ReadM Regex
  | 0, _ => return .sequence []
  | fuel + 1, start => do
    let index ← conditionGroup
    checkLookBehind index
    let present ← sequence fuel false []
    let absent ← if ← accept '|' then
        let items ← sequence fuel false []
        if (← peek) == some ['|'] then fail .thirdBranch 0 else pure items
      else pure []
    expectClose start
    return .condition index (.sequence present) (.sequence absent)
termination_by structural fuel => fuel

end

/-- A whole expression. -/
def expression (fuel : Nat) : ReadM Regex := do
  checkDangling
  let regex := Regex.sequence (← choice fuel true [])
  let s ← get
  if s.flags.contains .ascii && s.flags.contains .unicode then throw (.overrun .alphabetClash)
  else if (← peek).isSome then fail .unbalanced 0
  else
    match s.conditions.find? fun entry => s.groups ≤ entry.1 with
    | some (index, place) => failAt (.badReference index) place
    | none =>
      match regex.fault? s.widths (s.flags.contains .template) with
      | some fault => throw (.invalid ⟨fault, none⟩)
      | none => return regex

end Read

/-- Reads a regular expression. Its groups may be nested to any depth. -/
def Regex.ofPattern (pattern : List Char) : Except PatternFailure Regex :=
  let (rest, dangling) := glyphs 0 pattern
  (Read.expression (5 * rest.length + 8)).run' {
    rest := rest
    size := pattern.length
    dangling := dangling }

end IdlLint.Pattern
