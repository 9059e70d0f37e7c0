/-!
# Base64

The standard alphabet with exact padding: three bytes become four characters, a last group of one
or two bytes is filled up with `=`.  Reading refuses white space, missing padding, and bits behind
the last byte that are not zero, so every list of bytes has one text.
-/

namespace RelationalApi
namespace Base64

/-- The character for six bits. -/
def digitChar (value : Nat) : Char :=
  if value < 26 then Char.ofNat (value + 65)
  else if value < 52 then Char.ofNat (value - 26 + 97)
  else if value < 62 then Char.ofNat (value - 52 + 48)
  else if value = 62 then '+'
  else '/'

/-- The six bits that a character stands for. -/
def digitValue? (character : Char) : Option Nat :=
  if 'A' ≤ character && character ≤ 'Z' then some (character.toNat - 65)
  else if 'a' ≤ character && character ≤ 'z' then some (character.toNat - 97 + 26)
  else if '0' ≤ character && character ≤ '9' then some (character.toNat - 48 + 52)
  else if character = '+' then some 62
  else if character = '/' then some 63
  else none

/-- The characters for bytes. -/
def encodeChars : List UInt8 → List Char
  | [] => []
  | [a] =>
    [digitChar (a.toNat / 4), digitChar (a.toNat % 4 * 16), '=', '=']
  | [a, b] =>
    [digitChar (a.toNat / 4), digitChar (a.toNat % 4 * 16 + b.toNat / 16),
      digitChar (b.toNat % 16 * 4), '=']
  | a :: b :: c :: rest =>
    digitChar (a.toNat / 4) :: digitChar (a.toNat % 4 * 16 + b.toNat / 16) ::
      digitChar (b.toNat % 16 * 4 + c.toNat / 64) :: digitChar (c.toNat % 64) :: encodeChars rest

/-- The bytes that characters stand for. -/
def decodeChars? : List Char → Option (List UInt8)
  | [] => some []
  | [a, b, '=', '='] => do
    let a ← digitValue? a
    let b ← digitValue? b
    if b % 16 = 0 then some [UInt8.ofNat (a * 4 + b / 16)] else none
  | [a, b, c, '='] => do
    let a ← digitValue? a
    let b ← digitValue? b
    let c ← digitValue? c
    if c % 4 = 0 then
      some [UInt8.ofNat (a * 4 + b / 16), UInt8.ofNat (b % 16 * 16 + c / 4)]
    else none
  | a :: b :: c :: d :: rest => do
    let a ← digitValue? a
    let b ← digitValue? b
    let c ← digitValue? c
    let d ← digitValue? d
    let bytes ← decodeChars? rest
    some (UInt8.ofNat (a * 4 + b / 16) :: UInt8.ofNat (b % 16 * 16 + c / 4) ::
      UInt8.ofNat (c % 4 * 64 + d) :: bytes)
  | _ => none

/-- The text of bytes. -/
def encode (bytes : List UInt8) : String :=
  String.ofList (encodeChars bytes)

/-- The bytes of a text. -/
def decode? (text : String) : Option (List UInt8) :=
  decodeChars? text.toList

end Base64
end RelationalApi
