import Tinyproxy.Lib.InetPton

/-!
# Numbers in hexadecimal

What `printf` writes with `%x` and `%p`, and that it reads back: a number has one such
spelling, and one below 2^16 has at most the four digits of a group of an address.
-/

namespace Lib

/-- A number as `printf` writes it with `%x`. -/
def hexadecimal (n : Nat) : List UInt8 := (Nat.toDigits 16 n).map asciiByte

/-- A pointer as `printf` writes it with `%p`. -/
def pointer (p : Nat) : List UInt8 := ascii "0x" ++ hexadecimal p

theorem hexadecimal_ne_nil (n : Nat) : hexadecimal n ≠ [] := by
  simp [hexadecimal, Nat.toDigits_ne_nil]

theorem hexadecimal_small {n : Nat} (small : n < 16) : hexadecimal n = [asciiByte n.digitChar] := by
  rw [hexadecimal, Nat.toDigits_of_lt_base small, List.map_singleton]

theorem hexadecimal_large {n : Nat} (large : 16 ≤ n) :
    hexadecimal n = hexadecimal (n / 16) ++ [asciiByte (n % 16).digitChar] := by
  simp only [hexadecimal]
  rw [Nat.toDigits_of_base_le (by decide) large, List.map_append, List.map_singleton]

theorem hexDigit_asciiByte {d : Nat} (small : d < 16) : hexDigit (asciiByte d.digitChar) = some d := by
  revert d
  decide

/-- The value of a string of hexadecimal digits. -/
def hexValue (w : List UInt8) : Option Nat := (w.mapM hexDigit).map fun digits => digits.foldl (fun v d => 16 * v + d) 0

theorem hexValue_snoc {w : List UInt8} {c : UInt8} {v d : Nat} (front : hexValue w = some v)
    (last : hexDigit c = some d) : hexValue (w ++ [c]) = some (16 * v + d) := by
  simp only [hexValue, Option.map_eq_some_iff] at front ⊢
  obtain ⟨digits, read, rfl⟩ := front
  refine ⟨digits ++ [d], ?_, ?_⟩
  · rw [List.mapM_append, read]
    simp [last]
  · rw [List.foldl_append]
    simp

/-- **A number reads back from its digits.** -/
theorem hexValue_hexadecimal (n : Nat) : hexValue (hexadecimal n) = some n := by
  induction n using Nat.strong_induction_on with
  | _ n ih =>
    by_cases small : n < 16
    · rw [hexadecimal_small small]
      simp [hexValue, hexDigit_asciiByte small]
    · rw [hexadecimal_large (by omega)]
      have last := hexDigit_asciiByte (Nat.mod_lt n (show 0 < 16 by decide))
      rw [hexValue_snoc (ih (n / 16) (by omega)) last]
      congr 1
      omega

theorem hexadecimal_injective {m n : Nat} (same : hexadecimal m = hexadecimal n) : m = n := by
  have value := congrArg hexValue same
  rw [hexValue_hexadecimal, hexValue_hexadecimal] at value
  exact Option.some.inj value

/-- Every character is a digit that `inet_pton` reads. -/
theorem hexDigit_of_mem {n : Nat} {c : UInt8} (inside : c ∈ hexadecimal n) : ∃ d, hexDigit c = some d := by
  induction n using Nat.strong_induction_on with
  | _ n ih =>
    by_cases small : n < 16
    · rw [hexadecimal_small small, List.mem_singleton] at inside
      exact ⟨n, by rw [inside, hexDigit_asciiByte small]⟩
    · rw [hexadecimal_large (by omega)] at inside
      rcases List.mem_append.1 inside with front | last
      · exact ih (n / 16) (by omega) front
      · rw [List.mem_singleton] at last
        exact ⟨n % 16, by rw [last, hexDigit_asciiByte (by omega)]⟩

theorem notMem_hexadecimal {x : UInt8} (other : hexDigit x = none) (n : Nat) : x ∉ hexadecimal n := by
  intro inside
  obtain ⟨d, digit⟩ := hexDigit_of_mem inside
  rw [other] at digit
  cases digit

theorem length_hexadecimal {n : Nat} (small : n < 65536) : (hexadecimal n).length ≤ 4 := by
  rw [hexadecimal, List.length_map, Nat.length_toDigits_le_iff (by decide) (by decide)]
  exact small

/-! ## Pointers -/

theorem pointer_injective {p q : Nat} (same : pointer p = pointer q) : p = q :=
  hexadecimal_injective (List.append_cancel_left same)

theorem notMem_pointer {x : UInt8} (other : hexDigit x = none) (unlike : x ≠ 0x78) (p : Nat) : x ∉ pointer p := by
  intro inside
  rcases List.mem_append.1 inside with sign | digits
  · have parts : ascii "0x" = [0x30, 0x78] := by decide
    rw [parts] at sign
    simp only [List.mem_cons, List.not_mem_nil, or_false] at sign
    rcases sign with rfl | rfl
    · cases other
    · exact unlike rfl
  · exact notMem_hexadecimal other p digits

end Lib
