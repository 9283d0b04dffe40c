/-!
# Percent-coding

A text travels in a URL as its UTF-8 bytes, of which the unreserved ASCII characters stand for themselves and
every other byte is written as a percent sign and two hexadecimal digits. Reading is lenient: a percent sign
that is not followed by two hexadecimal digits stands for itself.
-/

namespace GridGateway.Text

/-- The bytes of a text in UTF-8. -/
def utf8Bytes (cs : List Char) : List UInt8 := (String.ofList cs).toUTF8.toList

/-- The text whose UTF-8 bytes these are, if there is one. -/
def ofUtf8Bytes? (bytes : List UInt8) : Option String := String.fromUTF8? bytes.toByteArray

/-- The bytes that stand for themselves: ASCII letters and digits and the four marks `-`, `.`, `_` and `~`. -/
def isUnreserved (b : UInt8) : Bool :=
  (0x30 ≤ b && b ≤ 0x39) || (0x41 ≤ b && b ≤ 0x5a) || (0x61 ≤ b && b ≤ 0x7a) ||
    b == 0x2d || b == 0x2e || b == 0x5f || b == 0x7e

/-- A capital hexadecimal digit. -/
def hexDigit (n : Nat) : Char :=
  if n < 10 then Char.ofNat (0x30 + n) else Char.ofNat (0x37 + n)

/-- The value of a byte that is an ASCII hexadecimal digit of either case. -/
def hexValue? (b : UInt8) : Option UInt8 :=
  if 0x30 ≤ b && b ≤ 0x39 then some (b - 0x30)
  else if 0x41 ≤ b && b ≤ 0x46 then some (b - 0x37)
  else if 0x61 ≤ b && b ≤ 0x66 then some (b - 0x57)
  else none

/-- The written form of one byte. -/
def percentByte (b : UInt8) : List Char :=
  if isUnreserved b then [Char.ofNat b.toNat]
  else ['%', hexDigit (b.toNat / 16), hexDigit (b.toNat % 16)]

/-- The percent-coded form of a text. -/
def percentEncode (s : String) : String :=
  String.ofList ((utf8Bytes s.toList).flatMap percentByte)

/-- The bytes that a percent-coded sequence of bytes stands for. -/
def percentDecodeBytes : List UInt8 → List UInt8
  | [] => []
  | [b] => [b]
  | [b, c] => [b, c]
  | b :: h :: l :: rest =>
    if b = 0x25 then
      match hexValue? h, hexValue? l with
      | some x, some y => (x * 16 + y) :: percentDecodeBytes rest
      | _, _ => b :: percentDecodeBytes (h :: l :: rest)
    else b :: percentDecodeBytes (h :: l :: rest)

/-- The text that a percent-coded text stands for, unless its bytes are not UTF-8. -/
def percentDecode? (cs : List Char) : Option String :=
  ofUtf8Bytes? (percentDecodeBytes (utf8Bytes cs))

end GridGateway.Text
