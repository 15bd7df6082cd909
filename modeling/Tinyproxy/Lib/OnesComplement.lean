import Tinyproxy.Lib.Octets
import Mathlib.Algebra.GroupWithZero.Nat

/-!
# One's-complement sums

The sum of 16-bit numbers in which every carry out of the top is brought around to the
bottom, over the big-endian words of a byte string. Such a sum is determined by the plain
sum modulo `65535`, except that `0` and `65535` are congruent: it is `0` only when all the
words are. `Carried` says so, and every way to compute the sum goes through it.
-/

namespace Lib

/-- The 16-bit words of a byte string, most significant byte first; an odd last byte is padded with a zero byte. -/
def words : List UInt8 → List Nat
  | a :: b :: rest => be16 a b :: words rest
  | [a] => [be16 a 0]
  | [] => []

/-- Addition with the carry brought around. -/
def onesAdd (a b : Nat) : Nat := if a + b < 65536 then a + b else a + b - 65535

/-- The one's-complement sum. -/
def onesSum (ws : List Nat) : Nat := ws.foldl onesAdd 0

/-- `n` is `s` with every carry out of 16 bits brought around. -/
structure Carried (s n : Nat) : Prop where
  small : n ≤ 65535
  same : n % 65535 = s % 65535
  zero : n = 0 ↔ s = 0

namespace Carried

variable {s n m : Nat}

theorem unique (left : Carried s n) (right : Carried s m) : n = m := by
  obtain ⟨small, same, zero⟩ := left
  obtain ⟨small', same', zero'⟩ := right
  omega

theorem self (small : s ≤ 65535) : Carried s s := ⟨small, rfl, Iff.rfl⟩

theorem add {w : Nat} (carried : Carried s n) (small : w ≤ 65535) : Carried (s + w) (onesAdd n w) := by
  obtain ⟨bound, same, zero⟩ := carried
  unfold onesAdd
  split
  · exact ⟨by omega, by omega, by omega⟩
  · exact ⟨by omega, by omega, by omega⟩

/-- Bringing the carries around once changes nothing. -/
theorem fold (carried : Carried (s % 65536 + s / 65536) n) : Carried s n := by
  obtain ⟨bound, same, zero⟩ := carried
  exact ⟨bound, by omega, by omega⟩

/-- The sum is `65535` exactly when the plain sum is a positive multiple of it. -/
theorem eq_max (carried : Carried s n) : n = 65535 ↔ s % 65535 = 0 ∧ s ≠ 0 := by
  obtain ⟨bound, same, zero⟩ := carried
  omega

end Carried

theorem carried_foldl {ws : List Nat} {s n : Nat} (start : Carried s n) (small : ∀ w ∈ ws, w ≤ 65535) :
    Carried (s + ws.sum) (ws.foldl onesAdd n) := by
  induction ws generalizing s n with
  | nil => exact start
  | cons w ws ih =>
    have step := ih (start.add (small w List.mem_cons_self)) fun v own => small v (List.mem_cons_of_mem w own)
    rwa [Nat.add_assoc, ← List.sum_cons] at step

/-- The one's-complement sum is the plain sum with the carries brought around. -/
theorem onesSum_carried {ws : List Nat} (small : ∀ w ∈ ws, w ≤ 65535) : Carried ws.sum (onesSum ws) := by
  have whole := carried_foldl (Carried.self (show 0 ≤ 65535 by decide)) small
  rwa [Nat.zero_add] at whole

theorem words_small (data : List UInt8) : ∀ w ∈ words data, w ≤ 65535 := by
  fun_induction words data with
  | case1 a b rest ih =>
    intro w own
    rcases List.mem_cons.1 own with rfl | own
    · exact Nat.le_of_lt_succ (be16_lt a b)
    · exact ih w own
  | case2 a =>
    intro w own
    rw [List.mem_singleton.1 own]
    exact Nat.le_of_lt_succ (be16_lt a 0)
  | case3 => simp

theorem words_sum_le (data : List UInt8) : (words data).sum ≤ (data.length + 1) / 2 * 65535 := by
  fun_induction words data with
  | case1 a b rest ih =>
    have word := be16_lt a b
    simp only [List.sum_cons, List.length_cons]
    omega
  | case2 a =>
    have word := be16_lt a 0
    simp only [List.sum_cons, List.sum_nil, List.length_cons, List.length_nil]
    omega
  | case3 => simp

theorem words_append {front back : List UInt8} (even : front.length % 2 = 0) :
    words (front ++ back) = words front ++ words back := by
  fun_induction words front with
  | case1 a b rest ih =>
    simp only [List.length_cons] at even
    rw [List.cons_append, List.cons_append, words, ih (by omega), List.cons_append]
  | case2 a => simp at even
  | case3 => rfl

/-- A number in two bytes, most significant first, is one word. -/
theorem be16_bytes (v : UInt16) : be16 (v >>> 8).toUInt8 v.toUInt8 = v.toNat := by
  have bound := v.toNat_lt
  rw [be16_eq]
  simp only [UInt16.toNat_toUInt8, UInt16.toNat_shiftRight, UInt16.reduceToNat, Nat.reduceMod,
    Nat.shiftRight_eq_div_pow, Nat.reducePow]
  omega

end Lib
