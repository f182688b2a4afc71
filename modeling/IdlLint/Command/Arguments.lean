import IdlLint.Text.Quoted
import IdlLint.Text.Similarity

/-! Options and arguments on the command line. Options have long names (`--format json`,
`--format=json`) and some have short ones, which can be joined (`-vq`, `-Ilib`). -/
namespace IdlLint.Command

inductive OptionName where
  | verbose | quiet | version | help
  | config | include | format | errorsOnly | strict
deriving DecidableEq, Repr, Inhabited

namespace OptionName

/-- The spellings of an option, the long one first. -/
def spellings : OptionName → List String
  | .verbose => ["--verbose", "-v"]
  | .quiet => ["--quiet", "-q"]
  | .version => ["--version"]
  | .help => ["--help"]
  | .config => ["--config"]
  | .include => ["--include", "-I"]
  | .format => ["--format"]
  | .errorsOnly => ["--errors-only"]
  | .strict => ["--strict"]

/-- Whether a value follows the option. -/
def takesValue : OptionName → Bool
  | .config | .include | .format => true
  | _ => false

/-- The option of some options that has a spelling. -/
def find? (known : List OptionName) (spelling : String) : Option OptionName :=
  known.find? fun option => option.spellings.contains spelling

end OptionName

/-- Why a command line is refused. -/
inductive UsageError where
  /-- An option is unknown; some known ones are like it. -/
  | noSuchOption (spelling : String) (near : List String)
  | missingValue (spelling : String)
  | unexpectedValue (spelling : String)
  | missingCommand
  | noSuchCommand (name : String) (near : List String)
  | missingPaths
  /-- A value of an option does not do. -/
  | invalidOption (option : OptionName) (reason : String)
  | invalidPath (reason : String)
  | extraArguments (arguments : List String)
deriving DecidableEq, Repr, Inhabited

/-- A question whether something else was meant. -/
def suggestion : List String → String
  | [] => ""
  | [word] => " Did you mean " ++ Text.quote word ++ "?"
  | words => " (Did you mean one of: " ++ ", ".intercalate (words.map Text.quote) ++ "?)"

def UsageError.message : UsageError → String
  | .noSuchOption spelling near =>
    "No such option " ++ Text.quote spelling ++ "." ++ suggestion near
  | .missingValue spelling => "Option " ++ Text.quote spelling ++ " requires an argument."
  | .unexpectedValue spelling => "Option " ++ Text.quote spelling ++ " does not take a value."
  | .missingCommand => "Missing command."
  | .noSuchCommand name near => "No such command " ++ Text.quote name ++ "." ++ suggestion near
  | .missingPaths => "Missing argument 'PATHS...'."
  | .invalidOption option reason =>
    "Invalid value for " ++ " / ".intercalate (option.spellings.map Text.quote) ++ ": " ++ reason
  | .invalidPath reason => "Invalid value for 'PATHS...': " ++ reason
  | .extraArguments arguments =>
    "Got unexpected extra argument" ++ (if arguments.length = 1 then "" else "s") ++ " (" ++
      " ".intercalate arguments ++ ")"

/-- An option as it was given, with its value if it takes one. -/
structure Given where
  option : OptionName
  value : Option String
deriving DecidableEq, Repr, Inhabited

/-- A command line with its options sorted out, in the order in which they were given. -/
structure Arguments where
  options : List Given := []
  positional : List String := []
deriving DecidableEq, Repr, Inhabited

namespace Arguments

/-- What an argument says: complete options, and perhaps one whose value is the next argument, with
its spelling. -/
structure Reading where
  complete : List Given
  pending : Option (OptionName × String)

/-- Splits a text at the first equals sign. -/
def splitValue (argument : List Char) : List Char × Option (List Char) :=
  let name := argument.takeWhile (· != '=')
  (name, if name.length < argument.length then some (argument.drop (name.length + 1)) else none)

/-- An option by its long name, perhaps with its value. -/
def readLong (known : List OptionName) (argument : List Char) : Except UsageError Reading :=
  let (name, value) := splitValue argument
  let spelling := String.ofList name
  match OptionName.find? (known.filter fun o => o.spellings.head? = some spelling) spelling with
  | none =>
    .error (.noSuchOption spelling
      (Text.closestWords spelling (known.filterMap fun option => option.spellings.head?)))
  | some option =>
    match option.takesValue, value with
    | true, some text => .ok ⟨[⟨option, some (String.ofList text)⟩], none⟩
    | true, none => .ok ⟨[], some (option, spelling)⟩
    | false, some _ => .error (.unexpectedValue spelling)
    | false, none => .ok ⟨[⟨option, none⟩], none⟩

/-- Options by their short names. The first that takes a value takes what is left. -/
def readShort (known : List OptionName) : List Char → Except UsageError Reading
  | [] => .ok ⟨[], none⟩
  | c :: rest =>
    let spelling := String.ofList ['-', c]
    match OptionName.find? known spelling with
    | none => .error (.noSuchOption spelling [])
    | some option =>
      if option.takesValue then
        if rest.isEmpty then .ok ⟨[], some (option, spelling)⟩
        else .ok ⟨[⟨option, some (String.ofList rest)⟩], none⟩
      else
        match readShort known rest with
        | .error e => .error e
        | .ok reading => .ok { reading with complete := ⟨option, none⟩ :: reading.complete }

/-- What an argument that begins with a hyphen says. -/
def read (known : List OptionName) (argument : String) : Except UsageError Reading :=
  match argument.toList with
  | '-' :: '-' :: _ => readLong known argument.toList
  | text => readShort known text.tail

/-- Whether an argument is an option. -/
def isOption (argument : String) : Bool :=
  argument.toList.head? = some '-' && 1 < argument.length

/-- Sorts out a command line. After `--` there are no options; nor after the first argument that is
none, unless they may be mixed. -/
def parse (known : List OptionName) (mixed : Bool) : List String → Except UsageError Arguments
  | [] => .ok {}
  | argument :: rest =>
    if argument = "--" then .ok { positional := rest }
    else if isOption argument then
      match read known argument with
      | .error e => .error e
      | .ok ⟨complete, none⟩ =>
        match parse known mixed rest with
        | .error e => .error e
        | .ok more => .ok { more with options := complete ++ more.options }
      | .ok ⟨complete, some (option, spelling)⟩ =>
        match rest with
        | [] => .error (.missingValue spelling)
        | value :: rest =>
          match parse known mixed rest with
          | .error e => .error e
          | .ok more =>
            .ok { more with options := complete ++ ⟨option, some value⟩ :: more.options }
    else if mixed then
      match parse known mixed rest with
      | .error e => .error e
      | .ok more => .ok { more with positional := argument :: more.positional }
    else .ok { positional := argument :: rest }

def has (a : Arguments) (option : OptionName) : Bool :=
  a.options.any fun given => given.option == option

/-- The values of an option, in the order in which they were given. -/
def values (a : Arguments) (option : OptionName) : List String :=
  (a.options.filter fun given => given.option == option).filterMap Given.value

/-- The value of an option that counts once: the last one. -/
def value? (a : Arguments) (option : OptionName) : Option String :=
  (a.values option).getLast?

/-- The options in the order in which they were first given. -/
def order (a : Arguments) : List OptionName :=
  (a.options.map Given.option).eraseDups

end Arguments

end IdlLint.Command
