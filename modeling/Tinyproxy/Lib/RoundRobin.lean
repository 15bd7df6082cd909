import Mathlib.Data.Int.CardIntervalMod

/-!
# Taking turns with a counter that wraps

A counter below `w` is taken modulo `c` to say whose turn it is. Where `c` does not
divide `w` the round in progress is cut short whenever the counter wraps, so the shares
of two parties can drift apart, but by one turn for each time it wraps at most.
-/

namespace Lib

/-- How many of the first `n` turns fall to party `i` of `c`, with a counter that wraps at `w`. -/
def turns (w c n i : Nat) : Nat := Nat.count (fun m => m % w % c = i) n

variable {w c n i j : Nat}

@[simp] theorem turns_zero : turns w c 0 i = 0 := Nat.count_zero _

theorem turns_succ : turns w c (n + 1) i = turns w c n i + if n % w % c = i then 1 else 0 :=
  Nat.count_succ _ n

/-- Until the counter wraps nobody is more than one turn ahead. -/
theorem turns_of_le (among : i < c) (before : n ≤ w) : turns w c n i = n / c + if i < n % c then 1 else 0 := by
  have exact_count := Nat.count_modEq_card n (r := c) (by omega) i
  rw [Nat.mod_eq_of_lt among] at exact_count
  rw [← exact_count, turns, Nat.count_eq_card_filter_range, Nat.count_eq_card_filter_range]
  congr 1
  apply Finset.filter_congr
  intro m mem
  rw [Finset.mem_range] at mem
  rw [Nat.mod_eq_of_lt (by omega : m < w), Nat.ModEq, Nat.mod_eq_of_lt among]

/-- After the counter has wrapped everything starts over. -/
theorem turns_wrap : turns w c (w + n) i = turns w c w i + turns w c n i := by
  rw [turns, Nat.count_add]
  simp only [Nat.add_mod_left]
  rfl

/-- **Shares of turns.** -/
theorem turns_le (wraps : 0 < w) (left : i < c) (right : j < c) : turns w c n i ≤ turns w c n j + (n / w + 1) := by
  induction n using Nat.strongRecOn with
  | ind n ih =>
    by_cases before : n ≤ w
    · have wrapped := Nat.zero_le (n / w)
      rw [turns_of_le left before, turns_of_le right before]
      split <;> split <;> omega
    · obtain ⟨m, rfl⟩ : ∃ m, n = w + m := ⟨n - w, by omega⟩
      have later := ih m (by omega)
      have first : turns w c w i ≤ turns w c w j + 1 := by
        rw [turns_of_le left (Nat.le_refl w), turns_of_le right (Nat.le_refl w)]
        split <;> split <;> omega
      rw [turns_wrap, turns_wrap, Nat.add_div_left m wraps]
      omega

end Lib
