import TurtleGraphics.Text.Quoted

/-! # Text as bytes

Text is written in one of four encodings. The two that do not cover every character refuse the
first run of characters beyond their range. Bytes are read as UTF-8, and the first sequence that is
not well formed is refused.
-/

namespace TurtleGraphics.Text

/-- Ways to write text as bytes. -/
inductive Encoding where
  /-- One to four bytes for a character. -/
  | utf8
  /-- One byte for each of the first 256 characters. -/
  | latin1
  /-- One byte for each of the first 128 characters. -/
  | ascii
  /-- One or two units of two bytes, the lower byte first. -/
  | utf16
  deriving Repr, DecidableEq

namespace Encoding

def name : Encoding → String
  | .utf8 => "utf-8"
  | .latin1 => "latin-1"
  | .ascii => "ascii"
  | .utf16 => "utf-16-le"

def ofName? (name : String) : Option Encoding :=
  [utf8, latin1, ascii, utf16].find? fun encoding => encoding.name = name

/-- How many characters the encoding covers, where it does not cover all. -/
def range? : Encoding → Option Nat
  | .latin1 => some 256
  | .ascii => some 128
  | _ => none

end Encoding

/-- Characters that an encoding does not cover. -/
structure EncodingFault where
  encoding : Encoding
  /-- How many characters it covers. -/
  range : Nat
  /-- The first character beyond its range. -/
  first : Char
  /-- Where that character stands. -/
  position : Nat
  /-- How many such characters stand there in a row. -/
  count : Nat
  deriving Repr, DecidableEq

namespace EncodingFault

def message (fault : EncodingFault) : String :=
  let what :=
    if fault.count = 1 then
      "character '" ++ String.ofList (CodePoint.ofChar fault.first).escape ++ "' in position " ++
        toString fault.position
    else
      "characters in position " ++ toString fault.position ++ "-" ++
        toString (fault.position + fault.count - 1)
  "'" ++ fault.encoding.name ++ "' codec can't encode " ++ what ++ ": ordinal not in range(" ++
    toString fault.range ++ ")"

end EncodingFault

/-- One unit of two bytes, the lower byte first. -/
def unitBytes (unit : Nat) : List UInt8 :=
  [(unit % 256).toUInt8, (unit / 256).toUInt8]

/-- A character in one or two units of two bytes. -/
def utf16Bytes (c : Char) : List UInt8 :=
  if c.toNat < 0x10000 then unitBytes c.toNat
  else
    let rest := c.toNat - 0x10000
    unitBytes (0xd800 + rest / 0x400) ++ unitBytes (0xdc00 + rest % 0x400)

def encode (encoding : Encoding) (text : String) : Except EncodingFault ByteArray :=
  let cs := text.toList
  match encoding.range? with
  | some range =>
    let covered := cs.takeWhile fun c => c.toNat < range
    match cs.dropWhile fun c => c.toNat < range with
    | [] => .ok ⟨(cs.map fun c => c.toNat.toUInt8).toArray⟩
    | first :: rest =>
      let count := 1 + (rest.takeWhile fun c => range ≤ c.toNat).length
      .error ⟨encoding, range, first, covered.length, count⟩
  | none =>
    if encoding = .utf16 then .ok ⟨(cs.flatMap utf16Bytes).toArray⟩ else .ok text.toUTF8

/-- What is wrong with a sequence of bytes. -/
inductive ByteFault where
  | invalidStart
  | invalidContinuation
  | unexpectedEnd
  deriving Repr, DecidableEq

namespace ByteFault

def reason : ByteFault → String
  | .invalidStart => "invalid start byte"
  | .invalidContinuation => "invalid continuation byte"
  | .unexpectedEnd => "unexpected end of data"

end ByteFault

/-- Bytes that are not well-formed UTF-8. -/
structure DecodingFault where
  /-- What is wrong. -/
  fault : ByteFault
  /-- The first byte of the sequence. -/
  first : UInt8
  /-- Where it stands. -/
  position : Nat
  /-- How many bytes are refused together. -/
  count : Nat
  deriving Repr, DecidableEq

namespace DecodingFault

def message (fault : DecodingFault) : String :=
  let what :=
    if fault.count = 1 then
      "byte 0x" ++ hexadecimal 2 fault.first.toNat ++ " in position " ++ toString fault.position
    else
      "bytes in position " ++ toString fault.position ++ "-" ++
        toString (fault.position + fault.count - 1)
  "'utf-8' codec can't decode " ++ what ++ ": " ++ fault.fault.reason

end DecodingFault

/-- What the first byte of a character says: the bits it holds itself, and the range of each byte
    that follows. -/
structure Lead where
  /-- The high bits of the character. -/
  bits : Nat
  /-- The least and the greatest value of each following byte. -/
  tails : List (Nat × Nat)

/-- What a byte says as the first of a character. The ranges leave out overlong forms, surrogates,
    and everything beyond the last code point. -/
def lead? (byte : Nat) : Option Lead :=
  let tail := (0x80, 0xbf)
  if byte < 0x80 then some ⟨byte, []⟩
  else if byte < 0xc2 then none
  else if byte < 0xe0 then some ⟨byte - 0xc0, [tail]⟩
  else if byte = 0xe0 then some ⟨0, [(0xa0, 0xbf), tail]⟩
  else if byte = 0xed then some ⟨0xd, [(0x80, 0x9f), tail]⟩
  else if byte < 0xf0 then some ⟨byte - 0xe0, [tail, tail]⟩
  else if byte = 0xf0 then some ⟨0, [(0x90, 0xbf), tail, tail]⟩
  else if byte < 0xf4 then some ⟨byte - 0xf0, [tail, tail, tail]⟩
  else if byte = 0xf4 then some ⟨4, [(0x80, 0x8f), tail, tail]⟩
  else none

/-- Read the bytes that follow the first. A fault comes with the number of bytes that were good. -/
def readTails (bits good : Nat) : List (Nat × Nat) → List UInt8 → Except (ByteFault × Nat) Nat
  | [], _ => .ok bits
  | _ :: _, [] => .error (.unexpectedEnd, good)
  | (least, greatest) :: tails, byte :: rest =>
    if least ≤ byte.toNat ∧ byte.toNat ≤ greatest then
      readTails (bits * 64 + (byte.toNat - 0x80)) (good + 1) tails rest
    else .error (.invalidContinuation, good)

/-- Read bytes as UTF-8 from a position on, after the characters of `acc` in reverse. The first
    `skip` bytes belong to the last of those. -/
def decodeFrom (acc : List Char) (position skip : Nat) :
    List UInt8 → Except DecodingFault (List Char)
  | [] => .ok acc.reverse
  | byte :: rest =>
    if 0 < skip then decodeFrom acc (position + 1) (skip - 1) rest
    else
      match lead? byte.toNat with
      | none => .error ⟨.invalidStart, byte, position, 1⟩
      | some lead =>
        match readTails lead.bits 1 lead.tails rest with
        | .error (fault, good) => .error ⟨fault, byte, position, good⟩
        | .ok point => decodeFrom (Char.ofNat point :: acc) (position + 1) lead.tails.length rest

def decode (bytes : ByteArray) : Except DecodingFault String :=
  return String.ofList (← decodeFrom [] 0 0 bytes.toList)

end TurtleGraphics.Text
