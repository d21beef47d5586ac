import Mathlib.Data.String.Basic
import Mathlib.Data.UInt
import Registrar.Text.Percent

/-!
# Texts in bytes and in names

Texts are read back from their UTF-8 bytes, and from their percent encoding. The encoding holds
nothing but ASCII characters, so its bytes are those that were written one by one, and each of them
is read back before the next one is looked at.

## Main results

* `textOfUtf8?_utf8Bytes` — a text from its bytes.
* `Percent.decode?_encode` — a text from its percent encoding.
-/

namespace Registrar

/-! ### Bytes -/

/-- **A text is read back from its bytes.** -/
theorem textOfUtf8?_utf8Bytes (text : String) : textOfUtf8? (utf8Bytes text) = some text := by
  rw [textOfUtf8?, utf8Bytes, Array.toArray_toList]
  exact dif_pos text.isValidUTF8

/-- Every character takes at least one byte. -/
theorem length_le_utf8ByteSize (text : String) : text.length ≤ text.utf8ByteSize := by
  have hchars (chars : List Char) : chars.length ≤ String.utf8Len chars := by
    induction chars with
    | nil => exact Nat.zero_le _
    | cons c chars ih =>
      rw [String.utf8Len_cons, List.length_cons]
      exact Nat.add_le_add ih c.utf8Size_pos
  rw [← String.length_toList, ← text.ofList_toList, String.utf8ByteSize_ofList,
    String.toList_ofList]
  exact hchars _

theorem utf8Bytes_ofList (chars : List Char) :
    utf8Bytes (String.ofList chars) = chars.flatMap String.utf8EncodeChar := by
  rw [utf8Bytes, String.toUTF8_eq_toByteArray, String.toByteArray_ofList, List.utf8Encode,
    List.data_toByteArray]

/-- An ASCII character is a single byte. -/
theorem utf8EncodeChar_ofNat {byte : UInt8} (h : byte < 128) :
    String.utf8EncodeChar (Char.ofNat byte.toNat) = [byte] := by
  have hall : ∀ n < 128, String.utf8EncodeChar (Char.ofNat n) = [UInt8.ofNat n] := by decide
  have hbyte := hall byte.toNat (UInt8.lt_iff_toNat_lt.mp h)
  rwa [UInt8.ofNat_toNat] at hbyte

/-- A text of ASCII characters has their codes as its bytes. -/
theorem utf8Bytes_ascii {bytes : List UInt8} (h : ∀ byte ∈ bytes, byte < 128) :
    utf8Bytes (String.ofList (bytes.map fun byte => Char.ofNat byte.toNat)) = bytes := by
  rw [utf8Bytes_ofList, List.flatMap_map]
  induction bytes with
  | nil => rfl
  | cons byte bytes ih =>
    rw [List.flatMap_cons, utf8EncodeChar_ofNat (h byte List.mem_cons_self), List.singleton_append,
      ih fun byte' hbyte' => h byte' (List.mem_cons_of_mem byte hbyte')]

namespace Percent

/-! ### Hexadecimal digits -/

theorem hexDigit_spec {n : UInt8} (h : n < 16) :
    hexValue? (hexDigit n) = some n ∧ hexDigit n < 128 := by
  have hall : ∀ k < 16, hexValue? (hexDigit (UInt8.ofNat k)) = some (UInt8.ofNat k) ∧
      hexDigit (UInt8.ofNat k) < 128 := by decide
  have hn := hall n.toNat (UInt8.lt_iff_toNat_lt.mp h)
  rwa [UInt8.ofNat_toNat] at hn

theorem div_sixteen_lt (byte : UInt8) : byte / 16 < 16 := by
  have hbyte := UInt8.toNat_lt byte
  simp only [UInt8.lt_iff_toNat_lt, UInt8.toNat_div, UInt8.reduceToNat]
  omega

theorem mod_sixteen_lt (byte : UInt8) : byte % 16 < 16 := by
  simp only [UInt8.lt_iff_toNat_lt, UInt8.toNat_mod, UInt8.reduceToNat]
  omega

theorem div_add_mod_sixteen (byte : UInt8) : 16 * (byte / 16) + byte % 16 = byte := by
  have hbyte := UInt8.toNat_lt byte
  refine UInt8.toNat_inj.mp ?_
  simp only [UInt8.toNat_add, UInt8.toNat_mul, UInt8.toNat_div, UInt8.toNat_mod, UInt8.reduceToNat]
  omega

/-! ### Encoded bytes -/

theorem isUnreserved_bounds {byte : UInt8} (h : isUnreserved byte = true) :
    byte < 128 ∧ byte ≠ 37 := by
  simp only [isUnreserved, Bool.or_eq_true, Bool.and_eq_true, decide_eq_true_eq, beq_iff_eq,
    UInt8.le_iff_toNat_le, ← UInt8.toNat_inj, UInt8.reduceToNat] at h
  simp only [UInt8.lt_iff_toNat_lt, ne_eq, ← UInt8.toNat_inj, UInt8.reduceToNat]
  omega

theorem lt_of_mem_encodeByte {byte b : UInt8} (h : b ∈ encodeByte byte) : b < 128 := by
  rw [encodeByte] at h
  split at h
  · next hplain =>
    rw [List.mem_singleton.mp h]
    exact (isUnreserved_bounds hplain).1
  · simp only [List.mem_cons, List.not_mem_nil, or_false] at h
    obtain rfl | rfl | rfl := h
    · decide
    · exact (hexDigit_spec (div_sixteen_lt byte)).2
    · exact (hexDigit_spec (mod_sixteen_lt byte)).2

theorem decodeBytes_encodeByte (byte : UInt8) (rest : List UInt8) :
    decodeBytes (encodeByte byte ++ rest) = byte :: decodeBytes rest := by
  rw [encodeByte]
  split
  · next hplain =>
    rw [List.singleton_append, decodeBytes]
    rintro high low rest' hpercent
    exact absurd hpercent (isUnreserved_bounds hplain).2
  · simp only [List.cons_append, List.nil_append, decodeBytes,
      (hexDigit_spec (div_sixteen_lt byte)).1, (hexDigit_spec (mod_sixteen_lt byte)).1,
      div_add_mod_sixteen]

theorem decodeBytes_flatMap (bytes : List UInt8) :
    decodeBytes (bytes.flatMap encodeByte) = bytes := by
  induction bytes with
  | nil => rfl
  | cons byte bytes ih => rw [List.flatMap_cons, decodeBytes_encodeByte, ih]

theorem utf8Bytes_encode (text : String) :
    utf8Bytes (encode text) = (utf8Bytes text).flatMap encodeByte := by
  refine utf8Bytes_ascii fun b hb => ?_
  obtain ⟨byte, -, hb⟩ := List.mem_flatMap.mp hb
  exact lt_of_mem_encodeByte hb

/-- **A text is read back from its encoding.** -/
theorem decode?_encode (text : String) : decode? (encode text) = some text := by
  rw [decode?, utf8Bytes_encode, decodeBytes_flatMap, textOfUtf8?_utf8Bytes]

end Percent

end Registrar
