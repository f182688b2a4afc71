import IdlLint.Number.Numeral
import IdlLint.Text.Utf8
import IdlLint.Yaml.Fault

/-! The tokens of the block and flow notation for structured data. Blocks are delimited by
indentation; a key that needs no mark of its own is recognised by the colon after it. -/
namespace IdlLint.Yaml

inductive Token where
  | streamEnd
  /-- A directive with the first number of a version. -/
  | version (major : Nat)
  /-- A directive with what a handle of tags stands for. -/
  | handle (handle meaning : List Char)
  | otherDirective
  | documentStart | documentEnd
  | blockSequenceStart | blockMappingStart | blockEnd
  | flowSequenceStart | flowSequenceEnd | flowMappingStart | flowMappingEnd
  | blockEntry | flowEntry | key | value
  | alias (name : List Char)
  | anchor (name : List Char)
  /-- A tag by its handle, if it has one, and its suffix. -/
  | tag (handle : Option (List Char)) (suffix : List Char)
  | scalar (text : List Char) (plain : Bool)
deriving DecidableEq, Repr, Inhabited

/-- What is left of the text and where it begins. -/
structure Source where
  rest : List Char
  index : Nat := 0
  line : Nat := 0
  column : Nat := 0
deriving Inhabited

/-- A place where a key may have begun that has no mark of its own. -/
structure SimpleKey where
  /-- The number of tokens before it. -/
  tokenIndex : Nat
  /-- Whether there must be a key, because the place is where the block's keys stand. -/
  required : Bool
  index : Nat
  line : Nat
  column : Nat
deriving Inhabited

structure Scanner where
  source : Source
  tokens : Array Token := #[]
  /-- The depth of flow collections. -/
  flow : Nat := 0
  /-- The column of the innermost block, and of those around it. -/
  indent : Int := -1
  indents : List Int := []
  simpleKeyAllowed : Bool := true
  /-- The possible keys by their flow depth. -/
  simpleKeys : List (Nat × SimpleKey) := []
  /-- The number of tokens that were certain before the next one was looked for. -/
  certain : Nat := 0
deriving Inhabited

/-- Why scanning ends early. -/
inductive Stop where
  | malformed
  /-- A fault that comes up when more than these tokens are asked for. -/
  | fault (fault : Fault) (before : Array Token)
deriving Inhabited

abbrev ScanM := StateT Scanner (Except Stop)

namespace Scan

def isBreak (c : Char) : Bool :=
  c = '\r' || c = '\n' || c = '\x85' || c = '\u2028' || c = '\u2029'

/-- Whether a place is the end of the text or of a line. -/
def atBreak : Option Char → Bool
  | none => true
  | some c => isBreak c

/-- Whether a place is the end of the text or of a line, or a space. -/
def atSpaceOrBreak : Option Char → Bool
  | none => true
  | some c => c = ' ' || isBreak c

/-- Whether a place is the end of the text or of a line, or a blank. -/
def atBlank : Option Char → Bool
  | none => true
  | some c => c = ' ' || c = '\t' || isBreak c

/-- The longest key without a mark, in characters. -/
def longestKey : Nat := 1024

def fail {α : Type} : ScanM α := throw .malformed

/-- Ends scanning with a fault, after the tokens that were certain before it. -/
def failWith {α : Type} (fault : Fault) : ScanM α := do
  let s ← get
  throw (.fault fault (s.tokens.extract 0 s.certain))

def require (condition : Bool) : ScanM Unit :=
  if condition then pure () else fail

def peekAt (n : Nat) : ScanM (Option Char) := do
  return (← get).source.rest[n]?

def peek : ScanM (Option Char) := peekAt 0

/-- The source after its next character. -/
def Source.next (s : Source) : Source :=
  match s.rest with
  | [] => s
  | c :: rest =>
    if isBreak c && !(c = '\r' && rest.head? = some '\n') then
      { rest := rest, index := s.index + 1, line := s.line + 1, column := 0 }
    else
      { s with
        rest := rest
        index := s.index + 1
        column := if c = '\ufeff' then s.column else s.column + 1 }

def Source.skip : Nat → Source → Source
  | 0, s => s
  | n + 1, s => Source.skip n (Source.next s)

def forward (n : Nat) : ScanM Unit :=
  modify fun s => { s with source := Source.skip n s.source }

/-- Takes the characters that satisfy `p`. -/
def takeWhile (p : Char → Bool) : ScanM (List Char) := do
  let taken := (← get).source.rest.takeWhile p
  forward taken.length
  return taken

def emit (token : Token) : ScanM Unit :=
  modify fun s => { s with tokens := s.tokens.push token }

/-- A bound on the steps that the rest of the text can need. -/
def fuel : ScanM Nat := do
  return (← get).source.rest.length + 1

/-- Takes a line break, if there is one, and gives what it stands for. -/
def lineBreak : ScanM (List Char) := do
  match (← get).source.rest with
  | '\r' :: '\n' :: _ => do
    forward 2
    return ['\n']
  | c :: _ =>
    if isBreak c then
      forward 1
      return if c = '\u2028' || c = '\u2029' then [c] else ['\n']
    else return []
  | [] => return []

/-- Whether the text goes on with a document mark. -/
def atDocumentMark : ScanM Bool := do
  let rest := (← get).source.rest
  let start := rest.take 3
  return (start == ['-', '-', '-'] || start == ['.', '.', '.']) && atBlank rest[3]?

/-! Blanks between tokens -/

def skipBlanks : Nat → ScanM Unit
  | 0 => return
  | fuel + 1 => do
    let _ ← takeWhile (· = ' ')
    if (← peek) = some '#' then
      let _ ← takeWhile fun c => !isBreak c
    if (← lineBreak).isEmpty then return
    else
      modify fun s => { s with simpleKeyAllowed := s.simpleKeyAllowed || s.flow == 0 }
      skipBlanks fuel

/-- Goes to the next token. A byte order mark may begin the text. -/
def toNextToken : ScanM Unit := do
  if (← get).source.index = 0 && (← peek) = some '\ufeff' then forward 1
  skipBlanks (← fuel)

/-! Keys without a mark -/

/-- Forgets possible keys that are out of reach; there must not be a required one among them. -/
def dropStaleKeys : ScanM Unit := do
  let s ← get
  let stale (key : SimpleKey) : Bool :=
    key.line != s.source.line || longestKey < s.source.index - key.index
  require (!s.simpleKeys.any fun entry => stale entry.2 && entry.2.required)
  set { s with simpleKeys := s.simpleKeys.filter fun entry => !stale entry.2 }

/-- Notes how many tokens are certain. One that may yet turn out to be a key is not, nor is any
after it. -/
def settle : ScanM Unit := do
  dropStaleKeys
  modify fun s => { s with
    certain := s.simpleKeys.foldl (fun n entry => min n entry.2.tokenIndex) s.tokens.size }

/-- Forgets the possible key of the current depth, which must not be a required one. -/
def dropKey : ScanM Unit := do
  let s ← get
  require (!s.simpleKeys.any fun entry => entry.1 == s.flow && entry.2.required)
  set { s with simpleKeys := s.simpleKeys.filter fun entry => entry.1 != s.flow }

/-- Notes that a key may begin here. -/
def saveKey : ScanM Unit := do
  let s ← get
  if s.simpleKeyAllowed then
    dropKey
    let key : SimpleKey := {
      tokenIndex := s.tokens.size
      required := s.flow == 0 && s.indent == s.source.column
      index := s.source.index
      line := s.source.line
      column := s.source.column }
    modify fun s => { s with simpleKeys := (s.flow, key) :: s.simpleKeys }

def allowKey (allowed : Bool) : ScanM Unit :=
  modify fun s => { s with simpleKeyAllowed := allowed }

/-! Indentation -/

/-- Ends the blocks that are indented more than `column`. -/
def unwindBlocks (column : Int) : List Int → ScanM Unit
  | [] => return
  | outer :: rest => do
    if column < (← get).indent then
      emit .blockEnd
      modify fun s => { s with indent := outer, indents := rest }
      unwindBlocks column rest

def unwind (column : Int) : ScanM Unit := do
  let s ← get
  if s.flow = 0 then unwindBlocks column s.indents

/-- Begins a block at `column` unless it goes on there. -/
def indentTo (column : Nat) : ScanM Bool := do
  let s ← get
  if s.indent < column then
    set { s with indents := s.indent :: s.indents, indent := column }
    return true
  else return false

/-! Scalars in quotes -/

def simpleEscape : Char → Option Char
  | '0' => some '\x00'
  | 'a' => some '\x07'
  | 'b' => some '\x08'
  | 't' => some '\t'
  | '\t' => some '\t'
  | 'n' => some '\n'
  | 'v' => some '\x0b'
  | 'f' => some '\x0c'
  | 'r' => some '\r'
  | 'e' => some '\x1b'
  | ' ' => some ' '
  | '"' => some '"'
  | '\\' => some '\\'
  | '/' => some '/'
  | 'N' => some '\x85'
  | '_' => some '\xa0'
  | 'L' => some '\u2028'
  | 'P' => some '\u2029'
  | _ => none

/-- The number of hexadecimal digits after an escape. -/
def escapeWidth : Char → Option Nat
  | 'x' => some 2
  | 'u' => some 4
  | 'U' => some 8
  | _ => none

def isHex (c : Char) : Bool :=
  c.isDigit || ('a' ≤ c && c ≤ 'f') || ('A' ≤ c && c ≤ 'F')

/-- The breaks between two lines of a quoted scalar. -/
def quotedBreaks : Nat → List Char → ScanM (List Char)
  | 0, breaks => return breaks
  | fuel + 1, breaks => do
    require (!(← atDocumentMark))
    let _ ← takeWhile fun c => c = ' ' || c = '\t'
    let more ← lineBreak
    if more.isEmpty then return breaks else quotedBreaks fuel (breaks ++ more)

/-- What two lines are joined with. -/
def fold (first breaks : List Char) : List Char :=
  if first != ['\n'] then first ++ breaks
  else if breaks.isEmpty then [' ']
  else breaks

/-- The character with a code point. Half of a surrogate pair is no character, and something that stands
for such is taken in its place. -/
def characterAt (code : Nat) : Char :=
  if code.isValidChar then Char.ofNat code else '\ufffd'

/-- The character with a code point that is written with `width` digits. -/
def codeEscape (width : Nat) : ScanM (List Char) := do
  let digits := (← get).source.rest.take width
  let code := Numeral.value 16 digits
  require (digits.length == width && digits.all isHex)
  if 0x80000000 ≤ code then failWith .codeTooLarge
  else if 0x110000 ≤ code then failWith .badCode
  else
    forward width
    return [characterAt code]

/-- An escape in a scalar in double quotes. -/
def quotedEscape : ScanM (List Char) := do
  forward 1
  match ← peek with
  | none => fail
  | some c =>
    match simpleEscape c, escapeWidth c with
    | some d, _ => do
      forward 1
      return [d]
    | none, some width => do
      forward 1
      codeEscape width
    | none, none => do
      require (isBreak c)
      let _ ← lineBreak
      quotedBreaks (← fuel) []

/-- The rest of a quoted scalar. -/
def quotedRest (double : Bool) : Nat → List Char → ScanM (List Char)
  | 0, _ => fail
  | fuel + 1, text => do
    match ← peek with
    | none => fail
    | some c =>
      if c = ' ' || c = '\t' || isBreak c then
        let blanks ← takeWhile fun c => c = ' ' || c = '\t'
        let first ← lineBreak
        if first.isEmpty then quotedRest double fuel (text ++ blanks)
        else
          let breaks ← quotedBreaks (fuel + 1) []
          quotedRest double fuel (text ++ fold first breaks)
      else if double && c = '\\' then
        let piece ← quotedEscape
        quotedRest double fuel (text ++ piece)
      else if c = (if double then '"' else '\'') then
        if !double && (← peekAt 1) = some '\'' then
          forward 2
          quotedRest double fuel (text ++ ['\''])
        else
          forward 1
          return text
      else
        forward 1
        quotedRest double fuel (text ++ [c])

def quoted (double : Bool) : ScanM Unit := do
  saveKey
  allowKey false
  forward 1
  let text ← quotedRest double ((← fuel) + 1) []
  emit (.scalar text false)

/-! Plain scalars -/

/-- Whether a plain scalar ends at a character with `after` behind it. -/
def endsPlain (flow : Bool) (c : Char) (after : Option Char) : Bool :=
  c = ' ' || c = '\t' || isBreak c ||
    (c = ':' &&
      (atBlank after || (flow && after.any fun d => [',', '[', ']', '{', '}'].contains d))) ||
    (flow && [',', '?', '[', ']', '{', '}'].contains c)

/-- The number of characters up to the next blank or end of a plain scalar. -/
def plainLength (flow : Bool) : List Char → Nat
  | [] => 0
  | c :: rest => if endsPlain flow c rest.head? then 0 else plainLength flow rest + 1

/-- The breaks between two lines of a plain scalar, or `none` before a document mark. -/
def plainBreaks : Nat → List Char → ScanM (Option (List Char))
  | 0, breaks => return some breaks
  | fuel + 1, breaks => do
    let _ ← takeWhile (· = ' ')
    let more ← lineBreak
    if more.isEmpty then return some breaks
    else if ← atDocumentMark then return none
    else plainBreaks fuel (breaks ++ more)

/-- The blanks after a word of a plain scalar; nothing if the scalar ends. -/
def plainSpaces : ScanM (List Char) := do
  let blanks ← takeWhile (· = ' ')
  let first ← lineBreak
  if first.isEmpty then return blanks
  else
    allowKey true
    if ← atDocumentMark then return []
    else
      match ← plainBreaks (← fuel) [] with
      | none => return []
      | some breaks => return fold first breaks

/-- The words of a plain scalar; `spaces` are the blanks before the next one. -/
def plainWords (indent : Int) : Nat → List Char → List Char → ScanM (List Char)
  | 0, text, _ => return text
  | fuel + 1, text, spaces => do
    let s ← get
    let length := plainLength (s.flow != 0) s.source.rest
    if (← peek) = some '#' || length = 0 then return text
    else
      allowKey false
      let word := s.source.rest.take length
      forward length
      let more ← plainSpaces
      let s ← get
      let text := text ++ spaces ++ word
      if more.isEmpty || (← peek) = some '#' || (s.flow == 0 && (s.source.column : Int) < indent)
      then return text
      else plainWords indent fuel text more

def plain : ScanM Unit := do
  saveKey
  allowKey false
  let text ← plainWords ((← get).indent + 1) (← fuel) [] []
  emit (.scalar text true)

/-- Whether a plain scalar can begin here. -/
def beginsPlain (flow : Bool) (c : Char) (after : Option Char) : Bool :=
  let special := ['-', '?', ':', ',', '[', ']', '{', '}', '#', '&', '*', '!', '|', '>', '\'', '"',
    '%', '@', '\x60']
  (!special.contains c && !atBlank (some c)) ||
    (!atBlank after && (c = '-' || (!flow && (c = '?' || c = ':'))))

/-! Scalars in blocks -/

/-- What is done with the breaks at the end of a block scalar. -/
inductive Chomping where
  | strip | clip | keep
deriving DecidableEq, Repr, Inhabited

def chompingMark : ScanM (Option Chomping) := do
  match ← peek with
  | some '+' => do
    forward 1
    return some .keep
  | some '-' => do
    forward 1
    return some .strip
  | _ => return none

def indentMark : ScanM (Option Nat) := do
  match ← peek with
  | some c =>
    if c.isDigit then
      require (c != '0')
      forward 1
      return some (c.toNat - 48)
    else return none
  | none => return none

/-- The marks after the sign of a block scalar, in either order. -/
def blockMarks : ScanM (Chomping × Option Nat) := do
  let first ← chompingMark
  let indent ← indentMark
  let chomping ← match first, indent with
    | none, some _ => chompingMark
    | _, _ => pure first
  require (atSpaceOrBreak (← peek))
  return (chomping.getD .clip, indent)

/-- The rest of the line of a block scalar's sign. -/
def blockHead : ScanM Unit := do
  let _ ← takeWhile (· = ' ')
  if (← peek) = some '#' then
    let _ ← takeWhile fun c => !isBreak c
  require (atBreak (← peek))
  let _ ← lineBreak

/-- Skips spaces up to the column `indent`. -/
def skipIndent (indent : Nat) : ScanM Unit := do
  let s ← get
  let spaces := s.source.rest.takeWhile (· = ' ')
  forward (min spaces.length (indent - s.source.column))

/-- The empty lines before the first line of a block scalar, and the widest indentation there. -/
def blockIndent : Nat → List Char → Nat → ScanM (List Char × Nat)
  | 0, breaks, widest => return (breaks, widest)
  | fuel + 1, breaks, widest => do
    let _ ← takeWhile (· = ' ')
    let widest := max widest (← get).source.column
    let more ← lineBreak
    if more.isEmpty then return (breaks, widest)
    else blockIndent fuel (breaks ++ more) widest

/-- The empty lines of a block scalar with a known indentation. -/
def blockBreaks (indent : Nat) : Nat → List Char → ScanM (List Char)
  | 0, breaks => return breaks
  | fuel + 1, breaks => do
    skipIndent indent
    let more ← lineBreak
    if more.isEmpty then return breaks
    else blockBreaks indent fuel (breaks ++ more)

/-- Whether a line of a block scalar begins here. -/
def atBlockLine (indent : Nat) : ScanM Bool := do
  let s ← get
  return s.source.column == indent && !s.source.rest.isEmpty

def isWide (c : Option Char) : Bool :=
  c = some ' ' || c = some '\t'

/-- The lines of a block scalar after `breaks`. Gives the text, the last line break and the empty
lines after it. -/
def blockLines (folded : Bool) (indent : Nat) :
    Nat → List Char → List Char → ScanM (List Char × List Char × List Char)
  | 0, text, breaks => return (text, [], breaks)
  | fuel + 1, text, breaks => do
    let wide := isWide (← peek)
    let line ← takeWhile fun c => !isBreak c
    let text := text ++ breaks ++ line
    let first ← lineBreak
    let breaks ← blockBreaks indent (fuel + 1) []
    if ← atBlockLine indent then
      let joint :=
        if folded && first == ['\n'] && !wide && !isWide (← peek) then
          if breaks.isEmpty then [' '] else []
        else first
      blockLines folded indent fuel (text ++ joint) breaks
    else return (text, first, breaks)

def blockScalar (folded : Bool) : ScanM Unit := do
  allowKey true
  dropKey
  forward 1
  let (chomping, mark) ← blockMarks
  blockHead
  let least := ((← get).indent + 1).toNat.max 1
  let (breaks, indent) ← match mark with
    | none => do
      let (breaks, widest) ← blockIndent (← fuel) [] 0
      pure (breaks, max least widest)
    | some n => do
      let breaks ← blockBreaks (least + n - 1) (← fuel) []
      pure (breaks, least + n - 1)
  let (text, last, rest) ←
    if ← atBlockLine indent then blockLines folded indent (← fuel) [] breaks
    else pure ([], [], breaks)
  let tail := match chomping with
    | .strip => []
    | .clip => last
    | .keep => last ++ rest
  emit (.scalar (text ++ tail) false)

/-! Anchors, aliases, tags and directives -/

def isNameChar (c : Char) : Bool :=
  c.isAlphanum || c = '-' || c = '_'

/-- The name of an anchor or an alias. -/
def anchorName : ScanM (List Char) := do
  saveKey
  allowKey false
  forward 1
  let name ← takeWhile isNameChar
  let after ← peek
  require (!name.isEmpty &&
    (atBlank after || after.any fun c => ['?', ':', ',', ']', '}', '%', '@', '\x60'].contains c))
  return name

def isUriChar (c : Char) : Bool :=
  c.isAlphanum || ['-', ';', '/', '?', ':', '@', '&', '=', '+', '$', ',', '_', '.', '!', '~', '*',
    '\'', '(', ')', '[', ']', '%'].contains c

/-- Bytes written by two hexadecimal digits each after percent signs. -/
def escapedBytes : List Char → List UInt8 × List Char
  | '%' :: a :: b :: rest =>
    if isHex a && isHex b then
      let (more, left) := escapedBytes rest
      (.ofNat (Numeral.value 16 [a, b]) :: more, left)
    else ([], '%' :: a :: b :: rest)
  | text => ([], text)

/-- The name of a tag, or a part of one. Bytes after percent signs must make characters. -/
def uriRest : Nat → List Char → ScanM (List Char)
  | 0, text => return text
  | fuel + 1, text => do
    let plain ← takeWhile fun c => isUriChar c && c != '%'
    let text := text ++ plain
    if (← peek) = some '%' then
      let rest := (← get).source.rest
      let (bytes, left) := escapedBytes rest
      require (!bytes.isEmpty && left.head? != some '%')
      match Text.decodeUtf8 bytes with
      | .error _ => fail
      | .ok piece =>
        forward (rest.length - left.length)
        uriRest fuel (text ++ piece)
    else return text

/-- A name of a tag, or a part of one, which must be there. -/
def uri : ScanM (List Char) := do
  let start := (← get).source.index
  let text ← uriRest (← fuel) []
  require ((← get).source.index != start)
  return text

/-- A handle of tags with its marks. -/
def tagHandle : ScanM (List Char) := do
  require ((← peek) = some '!')
  forward 1
  if (← peek) = some ' ' then return ['!']
  else
    let name ← takeWhile isNameChar
    require ((← peek) = some '!')
    forward 1
    return '!' :: name ++ ['!']

def tagToken : ScanM Token := do
  match ← peekAt 1 with
  | some '<' => do
    forward 2
    let suffix ← uri
    require ((← peek) = some '>')
    forward 1
    return .tag none suffix
  | after =>
    if atBlank after then
      forward 1
      return .tag none ['!']
    else
      let ahead := ((← get).source.rest.drop 1).takeWhile fun c => !atSpaceOrBreak (some c)
      if ahead.contains '!' then
        let handle ← tagHandle
        return .tag (some handle) (← uri)
      else
        forward 1
        return .tag (some ['!']) (← uri)

def tag : ScanM Unit := do
  saveKey
  allowKey false
  let token ← tagToken
  require (atSpaceOrBreak (← peek))
  emit token

/-- Ends all blocks, as a directive or a document mark does. -/
def endBlocks : ScanM Unit := do
  unwind (-1)
  dropKey
  allowKey false

/-- A number of a version. -/
def versionNumber : ScanM Nat := do
  let digits ← takeWhile Char.isDigit
  require (!digits.isEmpty)
  if mostDigits < digits.length then failWith (.excessiveDigits digits.length)
  else return Numeral.value 10 digits

/-- A version of two numbers. -/
def version : ScanM Token := do
  let _ ← takeWhile (· = ' ')
  let major ← versionNumber
  require ((← peek) = some '.')
  forward 1
  let _ ← versionNumber
  require (atSpaceOrBreak (← peek))
  return .version major

/-- A handle of tags and what it stands for. -/
def handleMeaning : ScanM Token := do
  let _ ← takeWhile (· = ' ')
  let handle ← tagHandle
  require ((← peek) = some ' ')
  let _ ← takeWhile (· = ' ')
  let meaning ← uri
  require (atSpaceOrBreak (← peek))
  return .handle handle meaning

def directive : ScanM Unit := do
  endBlocks
  forward 1
  let name ← takeWhile isNameChar
  require (!name.isEmpty && atSpaceOrBreak (← peek))
  let token ←
    if name == "YAML".toList then version
    else if name == "TAG".toList then handleMeaning
    else do
      let _ ← takeWhile fun c => !isBreak c
      pure .otherDirective
  blockHead
  emit token

/-! Marks -/

def flowStart (token : Token) : ScanM Unit := do
  saveKey
  modify fun s => { s with flow := s.flow + 1, simpleKeyAllowed := true }
  forward 1
  emit token

def flowEnd (token : Token) : ScanM Unit := do
  require ((← get).flow != 0)
  dropKey
  modify fun s => { s with flow := s.flow - 1, simpleKeyAllowed := false }
  forward 1
  emit token

def flowEntry : ScanM Unit := do
  allowKey true
  dropKey
  forward 1
  emit .flowEntry

/-- A mark that begins a block unless it stands in one, or in a flow collection. -/
def blockMark (start : Token) : ScanM Unit := do
  let s ← get
  if s.flow = 0 then
    require s.simpleKeyAllowed
    if ← indentTo s.source.column then emit start

def blockEntry : ScanM Unit := do
  blockMark .blockSequenceStart
  allowKey true
  dropKey
  forward 1
  emit .blockEntry

def keyMark : ScanM Unit := do
  blockMark .blockMappingStart
  allowKey ((← get).flow == 0)
  dropKey
  forward 1
  emit .key

/-- Puts tokens where a key began. -/
def insertTokens (index : Nat) (new : Array Token) : ScanM Unit :=
  modify fun s => { s with
    tokens := s.tokens.extract 0 index ++ new ++ s.tokens.extract index s.tokens.size }

def valueMark : ScanM Unit := do
  let s ← get
  match s.simpleKeys.find? fun entry => entry.1 == s.flow with
  | some (_, key) => do
    set { s with simpleKeys := s.simpleKeys.filter fun entry => entry.1 != s.flow }
    let begins ← if s.flow = 0 then indentTo key.column else pure false
    insertTokens key.tokenIndex (if begins then #[.blockMappingStart, .key] else #[.key])
    allowKey false
  | none => do
    blockMark .blockMappingStart
    allowKey (s.flow == 0)
    dropKey
  forward 1
  emit .value

def documentMark (token : Token) : ScanM Unit := do
  endBlocks
  forward 3
  emit token

/-- The next token and whether it is the last one. -/
def nextToken : ScanM Bool := do
  settle
  toNextToken
  dropStaleKeys
  let s ← get
  unwind s.source.column
  match s.source.rest with
  | [] => do
    endBlocks
    emit .streamEnd
    return true
  | c :: rest => do
    let after := rest.head?
    let inFlow := s.flow != 0
    let marked := inFlow || atBlank after
    let atMark ← atDocumentMark
    if s.source.column = 0 && c = '%' then directive
    else if s.source.column = 0 && atMark then
      documentMark (if c = '-' then .documentStart else .documentEnd)
    else if c = '[' then flowStart .flowSequenceStart
    else if c = '{' then flowStart .flowMappingStart
    else if c = ']' then flowEnd .flowSequenceEnd
    else if c = '}' then flowEnd .flowMappingEnd
    else if c = ',' then flowEntry
    else if c = '-' && atBlank after then blockEntry
    else if c = '?' && marked then keyMark
    else if c = ':' && marked then valueMark
    else if c = '*' then emit (.alias (← anchorName))
    else if c = '&' then emit (.anchor (← anchorName))
    else if c = '!' then tag
    else if c = '|' && !inFlow then blockScalar false
    else if c = '>' && !inFlow then blockScalar true
    else if c = '\'' then quoted false
    else if c = '"' then quoted true
    else
      require (beginsPlain inFlow c after)
      plain
    return false

def run : Nat → ScanM Unit
  | 0 => fail
  | fuel + 1 => do
    if ← nextToken then return else run fuel

end Scan

/-- Whether a character may stand in a text. -/
def isAllowed (c : Char) : Bool :=
  let n := c.toNat
  n = 9 || n = 10 || n = 13 || (32 ≤ n && n ≤ 126) || n = 133 || (160 ≤ n && n ≤ 0xfffd) ||
    0x10000 ≤ n

/-- The tokens of a text, and the fault that comes up after the last of them. -/
structure Tokens where
  tokens : List Token
  fault : Option Fault := none
deriving Inhabited

/-- Cuts a text into tokens, if that can be done. -/
def Tokens.ofText? (text : List Char) : Option Tokens :=
  if text.all isAllowed then
    match (Scan.run (text.length + 1)).run { source := { rest := text } } with
    | .ok (_, s) => some ⟨s.tokens.toList, none⟩
    | .error (.fault fault before) => some ⟨before.toList, some fault⟩
    | .error .malformed => none
  else none

end IdlLint.Yaml
