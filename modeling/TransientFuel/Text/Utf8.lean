/-!
# UTF-8

Files are bytes; their text is UTF-8. Decoding stops at the first character that is not well formed
and tells where it begins.
-/

namespace TransientFuel.Text

/-- A character of which some bytes have been read. -/
structure Unfinished where
  /-- The offset of its first byte. -/
  start : Nat
  /-- How many bytes are still to come. -/
  missing : Nat
  /-- The bits read so far. -/
  code : Nat
  /-- The least value that the next byte may have. -/
  low : Nat
  /-- The greatest value that the next byte may have. -/
  high : Nat

/-- A character of several bytes after its first byte, if that byte can begin one. -/
def Unfinished.begin? (start byte : Nat) : Option Unfinished :=
  if 0xC2 ≤ byte ∧ byte ≤ 0xDF then some ⟨start, 1, byte - 0xC0, 0x80, 0xBF⟩
  else if byte = 0xE0 then some ⟨start, 2, 0, 0xA0, 0xBF⟩
  else if byte = 0xED then some ⟨start, 2, 0xD, 0x80, 0x9F⟩
  else if 0xE1 ≤ byte ∧ byte ≤ 0xEF then some ⟨start, 2, byte - 0xE0, 0x80, 0xBF⟩
  else if byte = 0xF0 then some ⟨start, 3, 0, 0x90, 0xBF⟩
  else if 0xF1 ≤ byte ∧ byte ≤ 0xF3 then some ⟨start, 3, byte - 0xF0, 0x80, 0xBF⟩
  else if byte = 0xF4 then some ⟨start, 3, 4, 0x80, 0x8F⟩
  else none

/-- Decodes the bytes from an offset on, behind the characters done and perhaps amid one. -/
def decodeFrom (offset : Nat) (done : List Char) :
    Option Unfinished → List UInt8 → Except Nat String
  | none, [] => .ok (String.ofList done.reverse)
  | some started, [] => .error started.start
  | none, byte :: rest =>
    if byte.toNat < 0x80 then
      decodeFrom (offset + 1) (Char.ofNat byte.toNat :: done) none rest
    else
      match Unfinished.begin? offset byte.toNat with
      | some started => decodeFrom (offset + 1) done (some started) rest
      | none => .error offset
  | some started, byte :: rest =>
    if started.low ≤ byte.toNat ∧ byte.toNat ≤ started.high then
      let code := started.code * 64 + (byte.toNat - 0x80)
      if started.missing ≤ 1 then
        decodeFrom (offset + 1) (Char.ofNat code :: done) none rest
      else
        let missing := started.missing - 1
        let longer := { started with missing, code, low := 0x80, high := 0xBF }
        decodeFrom (offset + 1) done (some longer) rest
    else
      .error started.start

/-- The text of the bytes, or the offset of the first character that is not well formed. -/
def decode (bytes : List UInt8) : Except Nat String :=
  decodeFrom 0 [] none bytes

end TransientFuel.Text
