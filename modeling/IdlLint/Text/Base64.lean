/-! Bytes written as text, six bits to a character. -/
namespace IdlLint.Text.Base64

def value? (c : Char) : Option Nat :=
  if 'A' ≤ c && c ≤ 'Z' then some (c.toNat - 65)
  else if 'a' ≤ c && c ≤ 'z' then some (c.toNat - 71)
  else if c.isDigit then some (c.toNat + 4)
  else if c = '+' then some 62
  else if c = '/' then some 63
  else none

/-- The values of the characters up to the padding that completes a group of four, in reverse order.
`pads` counts the signs of padding before the next character. Other characters do not count. Without
such padding the groups must be complete. -/
def values? (pads : Nat) (read : List Nat) : List Char → Option (List Nat)
  | [] => if read.length % 4 = 0 then some read else none
  | c :: rest =>
    let place := read.length % 4
    if c = '=' then
      if place < 2 then values? pads read rest
      else if 4 ≤ place + pads + 1 then some read
      else values? (pads + 1) read rest
    else
      match value? c with
      | some value => values? 0 (value :: read) rest
      | none => values? pads read rest

/-- The bytes of values of six bits. Bits that fill no byte are dropped. -/
def bytes : List Nat → List UInt8
  | a :: b :: c :: d :: rest =>
    .ofNat (a * 4 + b / 16) :: .ofNat (b % 16 * 16 + c / 4) :: .ofNat (c % 4 * 64 + d) :: bytes rest
  | [a, b, c] => [.ofNat (a * 4 + b / 16), .ofNat (b % 16 * 16 + c / 4)]
  | [a, b] => [.ofNat (a * 4 + b / 16)]
  | _ => []

/-- The bytes that a text stands for. -/
def decode? (text : List Char) : Option (List UInt8) :=
  (values? 0 [] text).map fun values => bytes values.reverse

end IdlLint.Text.Base64
