/-! Integers of more than a fixed number of decimal digits are neither read nor written in
decimal. -/
namespace IdlLint

/-- The most decimal digits of an integer that is read or written in decimal. -/
def mostDigits : Nat := 4300

/-- Whether an integer can be written in decimal. -/
def isWritable (n : Int) : Bool :=
  n.natAbs < Nat.pow 10 mostDigits

/-- What is said of an integer that cannot be written. -/
def unwritableMessage : String :=
  "Exceeds the limit (4300 digits) for integer string conversion; use " ++
  "sys.set_int_max_str_digits() to increase the limit"

/-- What is said of decimal text with `count` digits that cannot be read. -/
def unreadableMessage (count : Nat) : String :=
  "Exceeds the limit (4300 digits) for integer string conversion: value has " ++ toString count ++
  " digits; use sys.set_int_max_str_digits() to increase the limit"

/-- What is said of a code point beyond the machine's integers. -/
def codeTooLargeMessage : String :=
  "Python int too large to convert to C int"

end IdlLint
