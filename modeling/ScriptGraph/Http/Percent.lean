import ScriptGraph.Text.Hexadecimal
import ScriptGraph.Text.Utf8

/-! # Percent-encoding

A character that has no place in a part of an address is written there as its bytes, each as a
percent sign and two digits.
-/

namespace ScriptGraph.Http.Percent

def hexDigit (n : Nat) : Char :=
  if n < 10 then Char.ofNat (n + '0'.toNat) else Char.ofNat (n - 10 + 'A'.toNat)

def encodeByte (b : UInt8) : List Char :=
  ['%', hexDigit (b.toNat / 16), hexDigit (b.toNat % 16)]

/-- Encodes controls, characters beyond ASCII and those of a class. -/
def encode (reserved : List Char) (cs : List Char) : List Char :=
  cs.flatMap fun c =>
    if c.toNat < 32 || 126 < c.toNat || reserved.contains c then
      (String.utf8EncodeChar c).flatMap encodeByte
    else [c]

/-- The bytes of a text. A percent sign without two digits stands for itself. -/
def decodeBytes : List Char → List UInt8
  | [] => []
  | '%' :: a :: b :: rest =>
    match Text.hexValue? a, Text.hexValue? b with
    | some high, some low => UInt8.ofNat (high * 16 + low) :: decodeBytes rest
    | _, _ => String.utf8EncodeChar '%' ++ decodeBytes (a :: b :: rest)
  | c :: rest => String.utf8EncodeChar c ++ decodeBytes rest

/-- The text that a text stands for, if its bytes are one. -/
def decode? (cs : List Char) : Option String :=
  (Text.Utf8.decode (decodeBytes cs)).toOption

end ScriptGraph.Http.Percent
