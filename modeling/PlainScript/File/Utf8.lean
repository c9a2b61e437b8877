/-
Bytes read as text: every fault says at which bytes and why the reading stopped.
-/

import PlainScript.Text.Printable

namespace PlainScript.File

inductive EncodingProblem where
  | startByte
  | continuationByte
  | endOfData
  deriving DecidableEq, Repr

def EncodingProblem.message : EncodingProblem → String
  | startByte => "invalid start byte"
  | continuationByte => "invalid continuation byte"
  | endOfData => "unexpected end of data"

/-- The bytes from `offset` on, `count` of them, encode no character; `byte` is the first. -/
structure EncodingFault where
  problem : EncodingProblem
  byte : UInt8
  offset : Nat
  count : Nat
  deriving DecidableEq, Repr

def EncodingFault.message (fault : EncodingFault) : String :=
  "'utf-8' codec can't decode " ++
    (if fault.count == 1 then
      "byte 0x" ++ .ofList (Text.hexDigits 2 fault.byte.toNat) ++ " in position " ++
        toString fault.offset
    else
      "bytes in position " ++ toString fault.offset ++ "-" ++
        toString (fault.offset + fault.count - 1)) ++
    ": " ++ fault.problem.message

/-- What a first byte announces: its own bits, how many bytes follow, and the range of the
next one. -/
structure Lead where
  bits : Nat
  following : Nat
  lowest : Nat
  highest : Nat

def lead? (byte : Nat) : Option Lead :=
  if byte < 0x80 then some ⟨byte, 0, 0x80, 0xBF⟩
  else if 0xC2 ≤ byte && byte ≤ 0xDF then some ⟨byte - 0xC0, 1, 0x80, 0xBF⟩
  else if byte == 0xE0 then some ⟨0, 2, 0xA0, 0xBF⟩
  else if byte == 0xED then some ⟨0xD, 2, 0x80, 0x9F⟩
  else if 0xE1 ≤ byte && byte ≤ 0xEF then some ⟨byte - 0xE0, 2, 0x80, 0xBF⟩
  else if byte == 0xF0 then some ⟨0, 3, 0x90, 0xBF⟩
  else if 0xF1 ≤ byte && byte ≤ 0xF3 then some ⟨byte - 0xF0, 3, 0x80, 0xBF⟩
  else if byte == 0xF4 then some ⟨4, 3, 0x80, 0x8F⟩
  else none

/-- A character that is being read: its first byte and offset, the bytes read, the bits read,
the bytes to come and the range of the next one. -/
structure Pending where
  first : UInt8
  offset : Nat
  read : Nat
  bits : Nat
  following : Nat
  lowest : Nat
  highest : Nat

/-- Reads bytes from an offset on. -/
def decodeFrom (pending : Option Pending) (offset : Nat) :
    List UInt8 → Except EncodingFault (List Char)
  | [] =>
      match pending with
      | none => .ok []
      | some started => .error ⟨.endOfData, started.first, started.offset, started.read⟩
  | byte :: rest =>
      match pending with
      | none =>
          match lead? byte.toNat with
          | none => .error ⟨.startByte, byte, offset, 1⟩
          | some lead =>
              if lead.following == 0 then
                (decodeFrom none (offset + 1) rest).map (Char.ofNat lead.bits :: ·)
              else
                decodeFrom
                  (some ⟨byte, offset, 1, lead.bits, lead.following, lead.lowest, lead.highest⟩)
                  (offset + 1) rest
      | some started =>
          if started.lowest ≤ byte.toNat && byte.toNat ≤ started.highest then
            let bits := started.bits * 64 + (byte.toNat - 0x80)
            if started.following == 1 then
              (decodeFrom none (offset + 1) rest).map (Char.ofNat bits :: ·)
            else
              decodeFrom
                (some ⟨started.first, started.offset, started.read + 1, bits, started.following - 1,
                  0x80, 0xBF⟩)
                (offset + 1) rest
          else .error ⟨.continuationByte, started.first, started.offset, started.read⟩

def decode (bytes : List UInt8) : Except EncodingFault (List Char) := decodeFrom none 0 bytes

end PlainScript.File
