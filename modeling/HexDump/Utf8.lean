/-! UTF-8 bytes and the characters they stand for. Decoding never fails: each
maximal piece that begins a well-formed sequence without completing it, and each
byte that begins none, is read as one replacement character. The decoder is a
machine over single bytes, so reading may stop and go on at any byte. -/
namespace HexDump

abbrev Bytes := List UInt8
abbrev Text := List Char

namespace Utf8

def replacement : Char := '\uFFFD'

def encode (text : Text) : Bytes := text.flatMap String.utf8EncodeChar

inductive Pending where
  | ready
  | owed (further : Nat) (low high : UInt8) (bits : Nat)
  deriving DecidableEq, Repr

/-- The state behind a leading byte of a longer sequence. Where the second byte
decides between well-formed, overlong, surrogate and out of range, the range of
that byte is narrower; the bytes C0, C1 and F5 to FF lead nothing. -/
def lead (b : UInt8) : Option Pending :=
  if b < 0xC2 then none
  else if b < 0xE0 then some (.owed 0 0x80 0xBF (b.toNat - 0xC0))
  else if b = 0xE0 then some (.owed 1 0xA0 0xBF 0)
  else if b = 0xED then some (.owed 1 0x80 0x9F 0x0D)
  else if b < 0xF0 then some (.owed 1 0x80 0xBF (b.toNat - 0xE0))
  else if b = 0xF0 then some (.owed 2 0x90 0xBF 0)
  else if b < 0xF4 then some (.owed 2 0x80 0xBF (b.toNat - 0xF0))
  else if b = 0xF4 then some (.owed 2 0x80 0x8F 4)
  else none

structure Decoder where
  output : Array Char
  pending : Pending

namespace Decoder

def start : Decoder := ⟨#[], .ready⟩

def begin (output : Array Char) (b : UInt8) : Decoder :=
  if b < 0x80 then ⟨output.push (Char.ofNat b.toNat), .ready⟩
  else match lead b with
    | some pending => ⟨output, pending⟩
    | none => ⟨output.push replacement, .ready⟩

def feed (d : Decoder) (b : UInt8) : Decoder :=
  match d.pending with
  | .ready => begin d.output b
  | .owed further low high bits =>
    if low ≤ b ∧ b ≤ high then
      let bits := bits * 64 + (b.toNat - 0x80)
      match further with
      | 0 => ⟨d.output.push (Char.ofNat bits), .ready⟩
      | further + 1 => ⟨d.output, .owed further 0x80 0xBF bits⟩
    else begin (d.output.push replacement) b

def finish (d : Decoder) : Text :=
  match d.pending with
  | .ready => d.output.toList
  | .owed .. => (d.output.push replacement).toList

end Decoder

def decode (bytes : Bytes) : Text := (bytes.foldl Decoder.feed .start).finish

def decode? (bytes : Bytes) : Option Text :=
  if encode (decode bytes) = bytes then some (decode bytes) else none

@[simp] theorem encodeNil : encode [] = [] := rfl

@[simp] theorem encodeAppend (s t : Text) : encode (s ++ t) = encode s ++ encode t := by
  simp [encode]

end Utf8
end HexDump
