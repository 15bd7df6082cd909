import Tinyproxy.Lib.CString
import Tinyproxy.Lib.Octets

/-!
# Formatted output

Numbers as `printf` writes them, and `snprintf` into the rest of a buffer. `Filled` says
what a buffer of a given size holds after such calls: a string that fits, its terminator,
and beyond the size the memory as it was.
-/

namespace Lib

/-- A number as `printf` writes it with `%d`. -/
def decimalInt (v : Int) : List UInt8 := if v < 0 then 0x2d :: decimal v.natAbs else decimal v.natAbs

/-- A number as `printf` writes it with a width, filled up on the left. -/
def padded (fill : UInt8) (width : Nat) (text : List UInt8) : List UInt8 :=
  List.replicate (width - text.length) fill ++ text

/-- `snprintf(buf + off, size, ...)` of the output `text`: as much of it as fits, and the terminator. -/
def snprintf (buf : List UInt8) (off size : Nat) (text : List UInt8) : List UInt8 :=
  if size = 0 then buf else putAt buf off (text.take (size - 1) ++ [0])

theorem decimal_ne_zero (n : Nat) : ∀ c ∈ decimal n, c ≠ 0 :=
  fun c own => digit_ne (decimal_digits n c own) (by decide)

theorem decimalInt_ne_zero (v : Int) : ∀ c ∈ decimalInt v, c ≠ 0 := by
  intro c own
  unfold decimalInt at own
  split at own
  · rcases List.mem_cons.1 own with rfl | own
    · decide
    · exact decimal_ne_zero _ c own
  · exact decimal_ne_zero _ c own

/-- A string ends at its terminator. -/
theorem cstr_append (s rest : List UInt8) : cstr (s ++ 0 :: rest) = cstr s := by
  induction s with
  | nil => rfl
  | cons c s ih =>
    simp only [cstr, List.cons_append, List.takeWhile_cons] at ih ⊢
    rw [ih]

/-- What `snprintf` leaves at the beginning of a buffer. -/
theorem cstr_snprintf {size : Nat} (some : size ≠ 0) (buf text : List UInt8) :
    cstr (snprintf buf 0 size text) = cstr (text.take (size - 1)) := by
  rw [snprintf, if_neg some, putAt, List.take_zero, List.nil_append, List.append_assoc, List.singleton_append]
  exact cstr_append _ _

theorem mem_cstr {s : List UInt8} {c : UInt8} (inside : c ∈ cstr s) : c ∈ s := (List.takeWhile_sublist _).mem inside

theorem drop_putAt {α : Type} {buf data : List α} {off n : Nat} (fits : off ≤ buf.length) (behind : off + data.length ≤ n) :
    (putAt buf off data).drop n = buf.drop n := by
  have front : (buf.take off ++ data).length = off + data.length := by
    rw [List.length_append, List.length_take, Nat.min_eq_left fits]
  rw [putAt, List.drop_append, List.drop_eq_nil_of_le (by omega), List.nil_append, List.drop_drop, front]
  congr 1
  omega

/-- A buffer of `size` bytes, in memory that was `before`, holds the string `text`. -/
structure Filled (before : List UInt8) (size : Nat) (text buf : List UInt8) : Prop where
  short : text.length < size
  string : text ++ [0] <+: buf
  length : buf.length = before.length
  outside : buf.drop size = before.drop size

namespace Filled

variable {before text buf : List UInt8} {size : Nat}

/-- The C string in the buffer. -/
theorem cstr (filled : Filled before size text buf) (nonzero : ∀ c ∈ text, c ≠ 0) : Lib.cstr buf = text := by
  obtain ⟨rest, whole⟩ := filled.string
  rw [← whole, List.append_assoc, Lib.cstr, List.takeWhile_append_of_pos (by simpa using nonzero)]
  simp

/-- Overwriting the string from its end on. -/
theorem write {data : List UInt8} (filled : Filled before size text buf) (inside : size ≤ before.length)
    (fits : text.length + data.length < size) : Filled before size (text ++ data) (putAt buf text.length (data ++ [0])) := by
  have length := filled.length
  have short := filled.short
  have sum : (data ++ [0]).length = data.length + 1 := by simp
  obtain ⟨rest, whole⟩ := filled.string
  have front : buf.take text.length = text := by
    rw [← whole, List.append_assoc, List.take_left]
  refine ⟨?_, ?_, ?_, ?_⟩
  · rwa [List.length_append]
  · rw [putAt, front, ← List.append_assoc, List.append_assoc text]
    exact List.prefix_append _ _
  · rw [length_putAt (by omega), length]
  · rw [drop_putAt (by omega) (by omega), filled.outside]

/-- `snprintf` at the end of the string: what is there and the new output, cut to the size of the buffer. -/
theorem snprintf (filled : Filled before size text buf) (inside : size ≤ before.length) (out : List UInt8) :
    Filled before size ((text ++ out).take (size - 1)) (snprintf buf text.length (size - text.length) out) := by
  have short := filled.short
  have cut : (text ++ out).take (size - 1) = text ++ out.take (size - text.length - 1) := by
    rw [List.take_append, List.take_of_length_le (by omega)]
    congr 2
    omega
  rw [Lib.snprintf, if_neg (by omega), cut]
  apply filled.write inside
  rw [List.length_take]
  omega

/-- A terminator in the last byte of a full buffer is there already. -/
theorem terminate (filled : Filled before size text buf) (inside : size ≤ before.length) (full : text.length = size - 1) :
    Filled before size text (putAt buf (size - 1) [0]) := by
  have written := filled.write inside (show text.length + ([] : List UInt8).length < size from filled.short)
  rwa [List.append_nil, List.nil_append, full] at written

end Filled

/-- A string at the beginning of a buffer. -/
theorem filled_put {before text : List UInt8} {size : Nat} (short : text.length < size) (inside : size ≤ before.length) :
    Filled before size text (putAt before 0 (text ++ [0])) := by
  have sum : (text ++ [0]).length = text.length + 1 := by simp
  refine ⟨short, ?_, ?_, ?_⟩
  · rw [putAt, List.take_zero, List.nil_append]
    exact List.prefix_append _ _
  · rw [length_putAt (by omega)]
  · exact drop_putAt (Nat.zero_le _) (by omega)

/-- A string of length 0. -/
theorem filled_nil {before : List UInt8} {size : Nat} (some : 0 < size) (inside : size ≤ before.length) :
    Filled before size [] (putAt before 0 [0]) := by
  refine ⟨some, ⟨before.drop 1, rfl⟩, ?_, ?_⟩
  · rw [length_putAt (by rw [List.length_singleton]; omega)]
  · exact drop_putAt (Nat.zero_le _) (by rw [List.length_singleton]; omega)

end Lib
