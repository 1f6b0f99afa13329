/-!
Decoding UTF-8 where bytes may be anything. A maximal prefix of a well-formed sequence that
does not continue becomes one replacement character, and so does a byte that starts none.
-/

namespace CellRunner.Text.Utf8

/-- A sequence that has begun: its value so far, the number of bytes still due, and the
bounds of the next of them. -/
structure Pending where
  value : Nat
  due : Nat
  lowest : UInt8
  highest : UInt8

inductive Start where
  | single (c : Char)
  | lead (pending : Pending)
  | invalid

/-- The second byte of a three- or four-byte sequence is bounded so that no value is
overlong, a surrogate, or past the last code point. -/
def start (b : UInt8) : Start :=
  let n := b.toNat
  if n < 0x80 then .single (Char.ofNat n)
  else if n < 0xC2 then .invalid
  else if n < 0xE0 then .lead ⟨n - 0xC0, 1, 0x80, 0xBF⟩
  else if n < 0xF0 then
    .lead ⟨n - 0xE0, 2, if n = 0xE0 then 0xA0 else 0x80, if n = 0xED then 0x9F else 0xBF⟩
  else if n < 0xF5 then
    .lead ⟨n - 0xF0, 3, if n = 0xF0 then 0x90 else 0x80, if n = 0xF4 then 0x8F else 0xBF⟩
  else .invalid

def replacement : Char :=
  Char.ofNat 0xFFFD

structure Decoder where
  /-- Decoded characters, the last one first. -/
  decoded : List Char
  pending : Option Pending

def Decoder.begin (decoded : List Char) (b : UInt8) : Decoder :=
  match start b with
  | .single c => ⟨c :: decoded, none⟩
  | .lead pending => ⟨decoded, some pending⟩
  | .invalid => ⟨replacement :: decoded, none⟩

def Decoder.step (decoder : Decoder) (b : UInt8) : Decoder :=
  match decoder.pending with
  | none => .begin decoder.decoded b
  | some pending =>
      if pending.lowest ≤ b && b ≤ pending.highest then
        let value := pending.value * 64 + (b.toNat - 0x80)
        if pending.due = 1 then ⟨Char.ofNat value :: decoder.decoded, none⟩
        else ⟨decoder.decoded, some ⟨value, pending.due - 1, 0x80, 0xBF⟩⟩
      else .begin (replacement :: decoder.decoded) b

def Decoder.finish (decoder : Decoder) : List Char :=
  match decoder.pending with
  | none => decoder.decoded.reverse
  | some _ => (replacement :: decoder.decoded).reverse

def decodeLossy (bytes : ByteArray) : String :=
  String.ofList (bytes.toList.foldl Decoder.step ⟨[], none⟩).finish

end CellRunner.Text.Utf8
