import IdlLint.Text.Quoted

/-! Texts from bytes. An error names the bytes that begin a character and do not complete it. -/
namespace IdlLint.Text

inductive DecodeReason where
  | start | continuation | truncated
deriving DecidableEq, Repr, Inhabited

def DecodeReason.message : DecodeReason → String
  | .start => "invalid start byte"
  | .continuation => "invalid continuation byte"
  | .truncated => "unexpected end of data"

structure DecodeError where
  /-- The offset of the first byte at fault. -/
  offset : Nat
  /-- The first byte at fault. -/
  byte : UInt8
  /-- How many bytes are at fault. -/
  count : Nat
  reason : DecodeReason
deriving DecidableEq, Repr, Inhabited

def DecodeError.message (e : DecodeError) : String :=
  let place :=
    if e.count = 1 then
      "byte 0x" ++ String.ofList (hexDigits 2 e.byte.toNat) ++ " in position " ++ toString e.offset
    else
      "bytes in position " ++ toString e.offset ++ "-" ++ toString (e.offset + e.count - 1)
  "'utf-8' codec can't decode " ++ place ++ ": " ++ e.reason.message

namespace Utf8

def isContinuation (b : UInt8) : Bool :=
  0x80 ≤ b && b < 0xC0

/-- Whether `second` can follow `first`: no overlong forms, no surrogates, nothing above the last
code point. -/
def isSecond (first second : UInt8) : Bool :=
  if first = 0xE0 then 0xA0 ≤ second && second < 0xC0
  else if first = 0xED then 0x80 ≤ second && second < 0xA0
  else if first = 0xF0 then 0x90 ≤ second && second < 0xC0
  else if first = 0xF4 then 0x80 ≤ second && second < 0x90
  else isContinuation second

/-- The character whose code point has these groups of six bits after the first one. -/
def compose (first : Nat) (rest : List UInt8) : Char :=
  Char.ofNat (rest.foldl (fun n b => 64 * n + b.toNat % 64) first)

/-- Decodes bytes, the first of which stands at `offset`. -/
def decodeFrom (offset : Nat) : List UInt8 → Except DecodeError (List Char)
  | [] => .ok []
  | a :: rest =>
    let fail (count : Nat) (reason : DecodeReason) : Except DecodeError (List Char) :=
      .error ⟨offset, a, count, reason⟩
    if a < 0x80 then (decodeFrom (offset + 1) rest).map (Char.ofNat a.toNat :: ·)
    else if a < 0xC2 || 0xF5 ≤ a then fail 1 .start
    else
      match rest with
      | [] => fail 1 .truncated
      | b :: rest =>
        if !isSecond a b then fail 1 .continuation
        else if a < 0xE0 then
          (decodeFrom (offset + 2) rest).map (compose (a.toNat % 32) [b] :: ·)
        else
          match rest with
          | [] => fail 2 .truncated
          | c :: rest =>
            if !isContinuation c then fail 2 .continuation
            else if a < 0xF0 then
              (decodeFrom (offset + 3) rest).map (compose (a.toNat % 16) [b, c] :: ·)
            else
              match rest with
              | [] => fail 3 .truncated
              | d :: rest =>
                if !isContinuation d then fail 3 .continuation
                else (decodeFrom (offset + 4) rest).map (compose (a.toNat % 8) [b, c, d] :: ·)

end Utf8

/-- The text that bytes encode. -/
def decodeUtf8 (bytes : List UInt8) : Except DecodeError (List Char) :=
  Utf8.decodeFrom 0 bytes

/-- The first byte of the character of which the byte at `offset` is a part. -/
def Utf8.startOf (bytes : List UInt8) : Nat → Nat
  | 0 => 0
  | offset + 1 =>
    if bytes[offset + 1]?.any Utf8.isContinuation then Utf8.startOf bytes offset else offset + 1

/-- The error as it shows when bytes come in blocks of `size` and each block is decoded at once. The
offset is then counted from the block, or from a character before it that the block completes. -/
def DecodeError.withinBlock (e : DecodeError) (size : Nat) (bytes : List UInt8) : DecodeError :=
  let revealed := match e.reason with
    | .start => e.offset
    | .continuation => e.offset + e.count
    | .truncated => bytes.length + size
  let block := revealed / size * size
  { e with offset := if e.offset ≤ block then 0 else e.offset - Utf8.startOf bytes block }

/-- Writes every line end as a line feed: a carriage return, alone or before a line feed, is one. -/
def unifyLines : List Char → List Char
  | '\r' :: '\n' :: rest => '\n' :: unifyLines rest
  | '\r' :: rest => '\n' :: unifyLines rest
  | c :: rest => c :: unifyLines rest
  | [] => []

end IdlLint.Text
