/-! # Bytes as text

UTF-8 in both directions. Reading is strict, with the place and kind of the first fault, or
lenient, with a replacement character for each faulty sequence.
-/

namespace ScriptGraph.Text.Utf8

/-- The bytes of a text. -/
def encode (s : String) : List UInt8 :=
  s.toList.flatMap String.utf8EncodeChar

/-- What the front of a byte sequence holds. -/
inductive Front where
  /-- A character of so many bytes. -/
  | char (c : Char) (width : Nat)
  /-- So many bytes that begin no character. -/
  | invalid (width : Nat)
  /-- A character that the end of the bytes cuts off. -/
  | incomplete

/-- Why bytes are not a text. -/
inductive Fault where
  | invalid (width index : Nat)
  | incomplete (index : Nat)
  deriving DecidableEq

def Fault.message : Fault → String
  | .invalid width index => s!"invalid utf-8 sequence of {width} bytes from index {index}"
  | .incomplete index => s!"incomplete utf-8 byte sequence from index {index}"

/-- Whether a byte continues a character. -/
def isContinuation (b : UInt8) : Bool :=
  0x80 ≤ b && b ≤ 0xBF

/-- The low six bits, which a continuation byte adds. -/
def payload (b : UInt8) : Nat :=
  b.toNat % 64

/-- The range of the byte after the lead of a three or four byte character. -/
def secondRange (lead : UInt8) : UInt8 × UInt8 :=
  if lead = 0xE0 then (0xA0, 0xBF)
  else if lead = 0xED then (0x80, 0x9F)
  else if lead = 0xF0 then (0x90, 0xBF)
  else if lead = 0xF4 then (0x80, 0x8F)
  else (0x80, 0xBF)

def inSecondRange (lead b : UInt8) : Bool :=
  (secondRange lead).1 ≤ b && b ≤ (secondRange lead).2

/-- Reads the character that `lead` begins. -/
def front (lead : UInt8) (rest : List UInt8) : Front :=
  if lead < 0x80 then .char (Char.ofNat lead.toNat) 1
  else if lead < 0xC2 || lead > 0xF4 then .invalid 1
  else if lead < 0xE0 then
    match rest with
    | [] => .incomplete
    | b :: _ =>
      if isContinuation b then .char (Char.ofNat (lead.toNat % 32 * 64 + payload b)) 2
      else .invalid 1
  else if lead < 0xF0 then
    match rest with
    | [] => .incomplete
    | b :: rest =>
      if !inSecondRange lead b then .invalid 1
      else match rest with
        | [] => .incomplete
        | c :: _ =>
          if isContinuation c then
            .char (Char.ofNat ((lead.toNat % 16 * 64 + payload b) * 64 + payload c)) 3
          else .invalid 2
  else
    match rest with
    | [] => .incomplete
    | b :: rest =>
      if !inSecondRange lead b then .invalid 1
      else match rest with
        | [] => .incomplete
        | c :: rest =>
          if !isContinuation c then .invalid 2
          else match rest with
            | [] => .incomplete
            | d :: _ =>
              if isContinuation d then
                .char (Char.ofNat
                  (((lead.toNat % 8 * 64 + payload b) * 64 + payload c) * 64 + payload d)) 4
              else .invalid 3

/-- Decodes from `index` on; the first `skip` bytes belong to a character already read. -/
def decodeFrom (index : Nat) : (skip : Nat) → List UInt8 → Except Fault (List Char)
  | _, [] => .ok []
  | skip + 1, _ :: rest => decodeFrom (index + 1) skip rest
  | 0, lead :: rest =>
    match front lead rest with
    | .char c width => (c :: ·) <$> decodeFrom (index + 1) (width - 1) rest
    | .invalid width => .error (.invalid width index)
    | .incomplete => .error (.incomplete index)

/-- The text of the bytes, or the first fault. -/
def decode (bytes : List UInt8) : Except Fault String :=
  String.ofList <$> decodeFrom 0 0 bytes

/-- Decodes what follows `skip` bytes, with a replacement character for each fault. -/
def decodeLossyFrom : (skip : Nat) → List UInt8 → List Char
  | _, [] => []
  | skip + 1, _ :: rest => decodeLossyFrom skip rest
  | 0, lead :: rest =>
    match front lead rest with
    | .char c width => c :: decodeLossyFrom (width - 1) rest
    | .invalid width => '\uFFFD' :: decodeLossyFrom (width - 1) rest
    | .incomplete => ['\uFFFD']

def decodeLossy (bytes : List UInt8) : String :=
  String.ofList (decodeLossyFrom 0 bytes)

end ScriptGraph.Text.Utf8
