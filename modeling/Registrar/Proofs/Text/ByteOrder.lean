import Mathlib.Data.String.Basic
import Registrar.Proofs.Text.Encoding

/-!
# Texts in the order of their bytes

Texts are compared by the codes of their characters. Their bytes, compared one by one, come out in
the same order: characters of more bytes have larger codes and start with larger bytes, and
characters of equally many bytes are written as the digits of their codes, the first digit first.

No character's bytes are the start of another's, so the first byte in which two texts differ stands
in the first character in which they differ. This is why `utf8EncodeChar_append_lt` lets anything
follow.

## Main results

* `utf8Bytes_lt_iff` — texts are ordered as their bytes are.
-/

namespace Registrar

/-! ### Characters -/

/-- Bytes given by numbers are compared as the numbers are. -/
theorem ofNat_cons_lt_iff {m n : Nat} (hm : m < 256) (hn : n < 256) {xs ys : List UInt8} :
    UInt8.ofNat m :: xs < UInt8.ofNat n :: ys ↔ m < n ∨ m = n ∧ xs < ys := by
  rw [List.cons_lt_cons_iff, UInt8.lt_iff_toNat_lt, ← UInt8.toNat_inj, UInt8.toNat_ofNat_of_lt' hm,
    UInt8.toNat_ofNat_of_lt' hn]

/-- The bytes of a character hold the digits of its code to the base 64. -/
theorem utf8EncodeChar_cases (c : Char) :
    let n := c.val.toNat
    n < 0x80 ∧ String.utf8EncodeChar c = [UInt8.ofNat n] ∨
    (0x80 ≤ n ∧ n < 0x800) ∧ String.utf8EncodeChar c =
      [UInt8.ofNat (n / 64 + 0xc0), UInt8.ofNat (n % 64 + 0x80)] ∨
    (0x800 ≤ n ∧ n < 0x10000) ∧ String.utf8EncodeChar c =
      [UInt8.ofNat (n / 4096 + 0xe0), UInt8.ofNat (n / 64 % 64 + 0x80),
        UInt8.ofNat (n % 64 + 0x80)] ∨
    (0x10000 ≤ n ∧ n < 0x110000) ∧ String.utf8EncodeChar c =
      [UInt8.ofNat (n / 262144 + 0xf0), UInt8.ofNat (n / 4096 % 64 + 0x80),
        UInt8.ofNat (n / 64 % 64 + 0x80), UInt8.ofNat (n % 64 + 0x80)] := by
  have hvalid : c.val.toNat < 0xd800 ∨ 0xdfff < c.val.toNat ∧ c.val.toNat < 0x110000 := c.valid
  intro n
  change n < 0xd800 ∨ 0xdfff < n ∧ n < 0x110000 at hvalid
  simp only [String.utf8EncodeChar]
  by_cases h1 : n ≤ 0x7f
  · exact .inl ⟨by omega, if_pos h1⟩
  by_cases h2 : n ≤ 0x7ff
  · refine .inr (.inl ⟨by omega, ?_⟩)
    rw [if_neg h1, if_pos h2, Nat.mod_eq_of_lt (show n / 64 < 0x20 by omega)]
  by_cases h3 : n ≤ 0xffff
  · refine .inr (.inr (.inl ⟨by omega, ?_⟩))
    rw [if_neg h1, if_neg h2, if_pos h3, Nat.mod_eq_of_lt (show n / 4096 < 0x10 by omega)]
  · refine .inr (.inr (.inr ⟨by omega, ?_⟩))
    rw [if_neg h1, if_neg h2, if_neg h3, Nat.mod_eq_of_lt (show n / 262144 < 0x08 by omega)]

/-- A smaller character has smaller bytes, whatever comes after them. -/
theorem utf8EncodeChar_append_lt {c d : Char} (h : c < d) (xs ys : List UInt8) :
    String.utf8EncodeChar c ++ xs < String.utf8EncodeChar d ++ ys := by
  have hlt : c.val.toNat < d.val.toNat := h
  have hc := utf8EncodeChar_cases c
  have hd := utf8EncodeChar_cases d
  generalize c.val.toNat = m at hlt hc
  generalize d.val.toNat = n at hlt hd
  -- Of the sixteen pairs of lengths, those where `c` is longer contradict `m < n`.
  rcases hc with ⟨hm, hc⟩ | ⟨hm, hc⟩ | ⟨hm, hc⟩ | ⟨hm, hc⟩ <;>
    rcases hd with ⟨hn, hd⟩ | ⟨hn, hd⟩ | ⟨hn, hd⟩ | ⟨hn, hd⟩ <;>
    simp (disch := omega) only [hc, hd, List.cons_append, List.nil_append, ofNat_cons_lt_iff] <;>
    omega

/-! ### Texts -/

theorem flatMap_utf8EncodeChar_lt {cs ds : List Char} (h : cs < ds) :
    cs.flatMap String.utf8EncodeChar < ds.flatMap String.utf8EncodeChar := by
  induction h with
  | @nil d ds =>
    obtain ⟨byte, bytes, hbytes⟩ :=
      List.exists_cons_of_ne_nil (String.utf8EncodeChar_ne_nil (c := d))
    rw [List.flatMap_cons, hbytes]
    exact .nil
  | rel h => exact utf8EncodeChar_append_lt h _ _
  | cons _ ih => exact List.append_left_lt ih

/-- **Texts are ordered as their bytes are.** -/
theorem utf8Bytes_lt_iff {s t : String} : utf8Bytes s < utf8Bytes t ↔ s < t := by
  have hmono {s t : String} (h : s < t) : utf8Bytes s < utf8Bytes t := by
    rw [← s.ofList_toList, ← t.ofList_toList, utf8Bytes_ofList, utf8Bytes_ofList]
    exact flatMap_utf8EncodeChar_lt h
  refine ⟨fun h => ?_, hmono⟩
  obtain hst | rfl | hts := lt_trichotomy s t
  · exact hst
  · exact absurd h (List.lt_irrefl _)
  · exact absurd h (List.lt_asymm (hmono hts))

end Registrar
