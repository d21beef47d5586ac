/-!
# Texts as bytes

Files and addresses hold bytes; texts are written in them as UTF-8. Bytes from elsewhere may not be
UTF-8 at all. They are then either refused, or read as far as possible: the longest pieces that
start like a character but do not end like one are each read as the replacement character.

## Main definitions

* `utf8Bytes`, `textOfUtf8?` — texts and their bytes.
* `textOfUtf8Lossy` — reads any bytes.
-/

namespace Registrar

/-- The bytes of a text. -/
def utf8Bytes (text : String) : List UInt8 :=
  text.toUTF8.data.toList

/-- The text of the given bytes, if they are UTF-8. -/
def textOfUtf8? (bytes : List UInt8) : Option String :=
  String.fromUTF8? (ByteArray.mk bytes.toArray)

/-! ### Reading any bytes -/

/-- How a character of more than one byte goes on after its first byte. -/
structure Continuation where
  /-- The bits of the code point that the first byte holds. -/
  bits : Nat
  /-- The least byte that may come next. -/
  least : UInt8
  /-- The greatest byte that may come next. -/
  greatest : UInt8
  /-- The number of bytes after the next one. -/
  more : Nat

/-- How a character goes on after its first byte; `none` if no character starts like this. -/
def continuationOf? (first : UInt8) : Option Continuation :=
  let n := first.toNat
  if n < 0xC2 then none
  else if n < 0xE0 then some ⟨n - 0xC0, 0x80, 0xBF, 0⟩
  else if n = 0xE0 then some ⟨0, 0xA0, 0xBF, 1⟩
  else if n = 0xED then some ⟨0xD, 0x80, 0x9F, 1⟩
  else if n < 0xF0 then some ⟨n - 0xE0, 0x80, 0xBF, 1⟩
  else if n = 0xF0 then some ⟨0, 0x90, 0xBF, 2⟩
  else if n < 0xF4 then some ⟨n - 0xF0, 0x80, 0xBF, 2⟩
  else if n = 0xF4 then some ⟨4, 0x80, 0x8F, 2⟩
  else none

/-- The replacement character. -/
def replacementChar : Char := '\ufffd'

/-- The characters of the given bytes. In the middle of a character `open?` says how it goes on; a
byte that does not fit ends the piece, and is looked at once more if it can start something. -/
def decodeLossy : Option Continuation → List UInt8 → List Char
  | none, [] => []
  | some _, [] => [replacementChar]
  | none, byte :: rest => startOfChar byte (fun open? => decodeLossy open? rest)
  | some step, byte :: rest =>
    if step.least ≤ byte ∧ byte ≤ step.greatest then
      let bits := step.bits * 64 + (byte.toNat - 0x80)
      if step.more = 0 then Char.ofNat bits :: decodeLossy none rest
      else decodeLossy (some ⟨bits, 0x80, 0xBF, step.more - 1⟩) rest
    else replacementChar :: startOfChar byte (fun open? => decodeLossy open? rest)
where
  /-- Reads a byte that is not in the middle of a character, and then the rest. -/
  startOfChar (byte : UInt8) (rest : Option Continuation → List Char) : List Char :=
    if byte < 0x80 then Char.ofNat byte.toNat :: rest none
    else
      match continuationOf? byte with
      | some step => rest (some step)
      | none => replacementChar :: rest none

/-- The text of any bytes, with replacement characters for what is not UTF-8. -/
def textOfUtf8Lossy (bytes : List UInt8) : String :=
  String.ofList (decodeLossy none bytes)

end Registrar
