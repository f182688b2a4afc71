import IdlLint.Config.Data
import IdlLint.Pattern.Regex
import IdlLint.Text.Utf8
import IdlLint.Yaml.Fault

/-! What the loading of settings leaves to others: to read data from bytes, to write a value as a text
and to make sense of a pattern. -/
namespace IdlLint.Config

/-- What goes wrong although it is not foreseen. -/
inductive Mishap where
  | undecodable (error : Text.DecodeError)
  /-- A text is in order as such, and still stands for no data. -/
  | data (fault : Yaml.Fault)
  /-- A pattern asks for more than there is. -/
  | overrun (excess : Pattern.PatternOverrun)
  /-- An integer is too long to be written. -/
  | unwritable
  /-- Anything else, such as a stack that is used up. -/
  | other (message : String)
deriving DecidableEq, Repr, Inhabited

def Mishap.message : Mishap → String
  | .undecodable e => e.message
  | .data fault => fault.message
  | .overrun excess => excess.message
  | .unwritable => unwritableMessage
  | .other message => message

/-- Why there is no result: what was given is at fault, which is foreseen, or there was a mishap. -/
inductive Trouble (ε : Type) where
  | fault (error : ε)
  | mishap (cause : Mishap)
deriving DecidableEq, Repr, Inhabited

structure Library where
  /-- The data that the bytes of a file stand for. What is foreseen is that they are malformed. -/
  read : List UInt8 → Except (Trouble Unit) Data
  /-- The text of a value. -/
  text : Data → Except Mishap String
  compile : List Char → Except (Trouble Pattern.PatternError) Pattern.Regex

end IdlLint.Config
