import Tinyproxy.Datagram.Raw
import Tinyproxy.Lib.OnesComplement

/-!
# `checksum16` is the Internet checksum

The accumulator of `checksum16` is exact up to 128 KiB of data, the folding loop brings the
carries around, and the result is the complement of the one's-complement sum. A field that
holds the checksum of the data around it makes the checksum of the whole 0.
-/

namespace Tinyproxy

open Lib (words onesSum Carried)

/-- One turn of the folding loop. -/
def foldTurn (sum : UInt32) : UInt32 := (sum &&& (0xffff : UInt32)) + sum >>> 16

theorem foldTurn_toNat (sum : UInt32) : (foldTurn sum).toNat = sum.toNat % 65536 + sum.toNat / 65536 := by
  have low : sum.toNat &&& 65535 = sum.toNat % 65536 := Nat.and_two_pow_sub_one_eq_mod sum.toNat 16
  have bound := sum.toNat_lt
  simp only [foldTurn, UInt32.toNat_add, UInt32.toNat_and, UInt32.toNat_shiftRight, UInt32.reduceToNat, low,
    Nat.reduceMod, Nat.shiftRight_eq_div_pow, Nat.reducePow]
  omega

theorem shift_eq_zero {sum : UInt32} : sum >>> 16 = 0 ↔ sum.toNat < 65536 := by
  rw [← UInt32.toNat_inj]
  simp only [UInt32.toNat_shiftRight, UInt32.reduceToNat, Nat.reduceMod, Nat.shiftRight_eq_div_pow, Nat.reducePow]
  omega

theorem checksum16Fold_eq (sum : UInt32) :
    checksum16Fold sum = if sum >>> 16 ≠ 0 then checksum16Fold (foldTurn sum) else sum := by
  conv_lhs => rw [checksum16Fold]
  rfl

/-- After two turns there is no carry left. -/
theorem foldTurn_twice (sum : UInt32) : foldTurn (foldTurn sum) >>> 16 = 0 := by
  have bound := sum.toNat_lt
  rw [shift_eq_zero, foldTurn_toNat, foldTurn_toNat]
  omega

/-- The folding loop brings the carries around. -/
theorem checksum16Fold_carried (sum : UInt32) : Carried sum.toNat (checksum16Fold sum).toNat := by
  fun_induction checksum16Fold sum with
  | case1 sum more ih =>
    have turn := foldTurn_toNat sum
    rw [foldTurn] at turn
    rw [turn] at ih
    exact ih.fold
  | case2 sum done =>
    have small := shift_eq_zero.1 (not_not.1 done)
    exact Carried.self (by omega)

theorem word_toNat (a b : UInt8) : (a.toUInt32 <<< 8 ||| b.toUInt32).toNat = Lib.be16 a b := by
  have bound := a.toNat_lt
  rw [UInt32.toNat_or, UInt32.toNat_shiftLeft]
  simp only [UInt8.toNat_toUInt32, UInt32.reduceToNat, Nat.reduceMod, Lib.be16]
  rw [Nat.mod_eq_of_lt]
  rw [Nat.shiftLeft_eq]
  omega

/-- The first loop and the odd byte add the words. -/
theorem checksum16Sum_toNat (sum : UInt32) (data : Bytes) (fits : sum.toNat + (words data).sum < 4294967296) :
    (checksum16Sum sum data).toNat = sum.toNat + (words data).sum := by
  fun_induction checksum16Sum sum data with
  | case1 sum a b rest ih =>
    have word := word_toNat a b
    rw [words, List.sum_cons] at fits ⊢
    have step : (sum + (a.toUInt32 <<< 8 ||| b.toUInt32)).toNat = sum.toNat + Lib.be16 a b := by
      rw [UInt32.toNat_add, word]
      omega
    rw [ih (by rw [step]; omega), step]
    omega
  | case2 sum a =>
    have word := word_toNat a 0
    rw [words, List.sum_singleton] at fits ⊢
    rw [show a.toUInt32 <<< 8 ||| (0 : UInt8).toUInt32 = a.toUInt32 <<< 8 from UInt32.or_zero] at word
    rw [UInt32.toNat_add, word]
    omega
  | case3 sum => simp [words]

/-- Up to 128 KiB the accumulator does not wrap. -/
theorem checksum16Sum_exact {data : Bytes} (short : data.length ≤ 131072) :
    (checksum16Sum 0 data).toNat = (words data).sum := by
  have bound := Lib.words_sum_le data
  rw [checksum16Sum_toNat 0 data (by rw [UInt32.toNat_zero]; omega), UInt32.toNat_zero, Nat.zero_add]

theorem complement_toNat (sum : UInt32) (small : sum.toNat ≤ 65535) : (~~~ sum).toUInt16.toNat = 65535 - sum.toNat := by
  rw [UInt32.toNat_toUInt16, UInt32.toNat_not]
  simp only [UInt32.size]
  omega

/-- The result is the complement of the one's-complement sum. -/
theorem checksum16_toNat {data : Bytes} (short : data.length ≤ 131072) :
    (checksum16 data).toNat = 65535 - onesSum (words data) := by
  have folded := checksum16Fold_carried (checksum16Sum 0 data)
  rw [checksum16, complement_toNat _ folded.small]
  rw [checksum16Sum_exact short] at folded
  rw [folded.unique (Lib.onesSum_carried (Lib.words_small data))]

/-- A checksum in a field that was 0 brings the sum to `65535`. -/
theorem onesSum_with_complement {front back : Bytes} {sum : UInt16} (even : front.length % 2 = 0)
    (checks : sum.toNat = 65535 - onesSum (words (front ++ 0 :: 0 :: back))) :
    onesSum (words (front ++ (htons sum ++ back))) = 65535 := by
  have before := Lib.onesSum_carried (Lib.words_small (front ++ 0 :: 0 :: back))
  have after := Lib.onesSum_carried (Lib.words_small (front ++ (htons sum ++ back)))
  have field : words (htons sum ++ back) = sum.toNat :: words back := by
    rw [htons, List.cons_append, List.cons_append, List.nil_append, words, Lib.be16_bytes]
  have empty : words (0 :: 0 :: back) = 0 :: words back := rfl
  rw [Lib.words_append even, List.sum_append] at before after
  rw [Lib.words_append even] at checks ⊢
  rw [field] at after ⊢
  rw [empty] at before checks
  rw [List.sum_cons] at before after
  rw [after.eq_max]
  obtain ⟨small, same, zero⟩ := before
  omega

/-- **The Internet checksum.** For up to 131072 bytes the accumulator is exact after every word, the folding loop ends
within two turns, the result is the complement of the one's-complement sum of the big-endian words, and the checksum of
data that carries its own checksum in a field at an even offset is 0. -/
theorem checksum16_is_internet_checksum (data : Bytes) (short : data.length ≤ 131072) :
    (∀ k, (checksum16Sum 0 (data.take k)).toNat = (words (data.take k)).sum) ∧
    (∀ sum, foldTurn (foldTurn sum) >>> 16 = 0 ∧
      checksum16Fold sum = if sum >>> 16 ≠ 0 then checksum16Fold (foldTurn sum) else sum) ∧
    (checksum16 data).toNat = 65535 - onesSum (words data) ∧
    ∀ front back, data = front ++ 0 :: 0 :: back → front.length % 2 = 0 →
      checksum16 (front ++ (htons (checksum16 data) ++ back)) = 0 := by
  refine ⟨?_, ?_, checksum16_toNat short, ?_⟩
  · intro k
    apply checksum16Sum_exact
    rw [List.length_take]
    omega
  · exact fun sum => ⟨foldTurn_twice sum, checksum16Fold_eq sum⟩
  · rintro front back rfl even
    have checks := checksum16_toNat short
    have size : (front ++ (htons (checksum16 (front ++ 0 :: 0 :: back)) ++ back)).length ≤ 131072 := by
      simpa [htons] using short
    apply UInt16.toNat_inj.1
    rw [checksum16_toNat size, onesSum_with_complement even checks]
    rfl

theorem checksum16_is_internet_checksum_short :
    [0x12, 0x34, 0, 0, 0xff].length ≤ 131072 ∧
      checksum16 ([0x12, 0x34] ++ (htons (checksum16 [0x12, 0x34, 0, 0, 0xff]) ++ [0xff])) = 0 :=
  ⟨by decide, (checksum16_is_internet_checksum [0x12, 0x34, 0, 0, 0xff] (by decide)).2.2.2 [0x12, 0x34] [0xff] rfl rfl⟩

end Tinyproxy
