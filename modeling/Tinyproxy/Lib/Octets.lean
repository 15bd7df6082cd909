import Mathlib.Algebra.Group.Nat.Defs
import Mathlib.Data.List.Basic

/-!
# Octet strings

Big-endian numbers in a byte string, the overwriting of part of a buffer (`memcpy`
into an array of fixed size), and parts of a string: a part of a given length in front
of the rest, and a part that sits at a position.
-/

namespace Lib

/-- The 16-bit number with the given high and low octets. -/
def be16 (hi lo : UInt8) : Nat := (hi.toNat <<< 8) ||| lo.toNat

/-- The 24-bit number with the given octets, most significant first. -/
def be24 (hi mid lo : UInt8) : Nat := (hi.toNat <<< 16) ||| (mid.toNat <<< 8) ||| lo.toNat

theorem be16_eq (hi lo : UInt8) : be16 hi lo = hi.toNat * 256 + lo.toNat := by
  have bound : lo.toNat < 2 ^ 8 := lo.toNat_lt
  rw [be16, ← Nat.shiftLeft_add_eq_or_of_lt bound, Nat.shiftLeft_eq]

theorem be16_lt (hi lo : UInt8) : be16 hi lo < 65536 := by
  have := hi.toNat_lt
  have := lo.toNat_lt
  rw [be16_eq]
  omega

theorem be24_lt (hi mid lo : UInt8) : be24 hi mid lo < 2 ^ 24 := by
  have high : hi.toNat <<< 16 < 2 ^ 24 := by
    have := hi.toNat_lt
    rw [Nat.shiftLeft_eq]
    omega
  have middle : mid.toNat <<< 8 < 2 ^ 24 := by
    have := mid.toNat_lt
    rw [Nat.shiftLeft_eq]
    omega
  have low : lo.toNat < 2 ^ 24 := Nat.lt_trans lo.toNat_lt (by decide)
  exact Nat.or_lt_two_pow (Nat.or_lt_two_pow high middle) low

variable {α : Type}

/-- `buf` with `data` written over it from offset `off` on. -/
def putAt (buf : List α) (off : Nat) (data : List α) : List α :=
  buf.take off ++ data ++ buf.drop (off + data.length)

/-- Writing inside the buffer keeps its size. -/
theorem length_putAt {buf data : List α} {off : Nat} (fits : off + data.length ≤ buf.length) :
    (putAt buf off data).length = buf.length := by
  simp only [putAt, List.length_append, List.length_take, List.length_drop]
  omega

/-- Writing directly behind `front` extends it. -/
theorem take_putAt {buf front data : List α} {off : Nat} (fits : off + data.length ≤ buf.length)
    (written : buf.take off = front) : (putAt buf off data).take (off + data.length) = front ++ data := by
  have size : (buf.take off ++ data).length = off + data.length := by
    simp only [List.length_append, List.length_take]
    omega
  rw [putAt, ← size, List.take_left, written]

/-- Consecutive writes from offset `off` on, each directly behind the one before. -/
def putAll (buf : List α) (off : Nat) : List (List α) → List α
  | [] => buf
  | data :: rest => putAll (putAt buf off data) (off + data.length) rest

/-- Consecutive writes behind `front` lay their data out in order. -/
theorem take_putAll {buf front : List α} {off : Nat} {parts : List (List α)}
    (fits : off + parts.flatten.length ≤ buf.length) (written : buf.take off = front) :
    (putAll buf off parts).take (off + parts.flatten.length) = front ++ parts.flatten := by
  induction parts generalizing buf front off with
  | nil => simpa [putAll] using written
  | cons data rest ih =>
    simp only [List.flatten_cons, List.length_append] at fits ⊢
    have here : (putAt buf off data).take (off + data.length) = front ++ data :=
      take_putAt (by omega) written
    have behind := ih (by rw [length_putAt (by omega)]; omega) here
    rw [putAll, ← Nat.add_assoc, behind, List.append_assoc]

/-- The part of a string between two others. -/
theorem take_drop_mid {a b c : List α} {n k : Nat} (before : a.length = n) (size : b.length = k) :
    ((a ++ (b ++ c)).drop n).take k = b := by
  rw [← before, ← size, List.drop_left, List.take_left]

/-- A part of the given length in front. -/
theorem split_at {l : List α} {k : Nat} (fits : k ≤ l.length) : ∃ front back, l = front ++ back ∧ k = front.length :=
  ⟨l.take k, l.drop k, (List.take_append_drop k l).symm, by simp [fits]⟩

/-- `l` begins with a part of length `k`, and that part and what follows it satisfy `P`. -/
def Prefixed (k : Nat) (P : List α → List α → Prop) (l : List α) : Prop :=
  ∃ front back, l = front ++ back ∧ k = front.length ∧ P front back

theorem prefixed_append {front back : List α} {k : Nat} {P : List α → List α → Prop} (length : k = front.length) :
    Prefixed k P (front ++ back) ↔ P front back := by
  constructor
  · rintro ⟨front', back', split, own, holds⟩
    obtain ⟨rfl, rfl⟩ := List.append_inj split (by omega)
    exact holds
  · intro holds
    exact ⟨front, back, rfl, length, holds⟩

theorem not_prefixed {l : List α} {k : Nat} {P : List α → List α → Prop} (long : l.length < k) : ¬ Prefixed k P l := by
  rintro ⟨front, back, rfl, own, -⟩
  rw [List.length_append] at long
  omega

/-- `rd` answers the items of `seg` from `pos` on. -/
def Shows (rd : Nat → Option α) (pos : Nat) (seg : List α) : Prop := ∀ i, i < seg.length → rd (pos + i) = seg[i]?

namespace Shows

variable {rd : Nat → Option α} {seg rest : List α} {pos : Nat} {x : α}

theorem left (shows : Shows rd pos (seg ++ rest)) : Shows rd pos seg := by
  intro i inside
  rw [shows i (by rw [List.length_append]; omega), List.getElem?_append_left inside]

/-- Behind a part comes the next. -/
theorem skip (shows : Shows rd pos (seg ++ rest)) : Shows rd (pos + seg.length) rest := by
  intro i inside
  rw [Nat.add_assoc, shows (seg.length + i) (by rw [List.length_append]; omega),
    List.getElem?_append_right (Nat.le_add_right _ _), Nat.add_sub_cancel_left]

theorem tail (shows : Shows rd pos (x :: seg)) : Shows rd (pos + 1) seg := @skip _ rd [x] seg pos shows

theorem head (shows : Shows rd pos (x :: seg)) : rd pos = some x := shows 0 (Nat.succ_pos _)

end Shows

end Lib
