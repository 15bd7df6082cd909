import Mathlib.Data.List.TakeDrop
import Mathlib.Data.List.TakeWhile

/-!
# C strings

The parts of `<string.h>`, `<ctype.h>` and `<stdlib.h>` that read text, on byte
strings without their terminator: `strtok_r`, and `strtol` and `strtoul` in base
10, in the C locale and with a `long` of 64 bits.
-/

namespace Lib

/-! ## Characters -/

/-- The byte of an ASCII character. -/
def asciiByte (c : Char) : UInt8 := UInt8.ofNat c.toNat

/-- A string literal of the source. -/
def ascii (s : String) : List UInt8 := s.toList.map asciiByte

/-- The C string that starts at the beginning of a buffer. -/
def cstr (buf : List UInt8) : List UInt8 := buf.takeWhile (· != 0)

theorem cstr_of_nonzero {s : List UInt8} (nonzero : ∀ c ∈ s, c ≠ 0) : cstr s = s := by
  rw [cstr, List.takeWhile_eq_self_iff]
  simpa using nonzero

/-- `isspace`: space, and tab to carriage return. -/
def isspace (c : UInt8) : Bool := c == 0x20 || (0x09 ≤ c && c ≤ 0x0d)

/-- `isdigit`. -/
def isdigit (c : UInt8) : Bool := 0x30 ≤ c && c ≤ 0x39

/-! ## Tokens -/

section Tokens

variable {α : Type} {delim : α → Bool}

/-- The tokens that repeated calls of `strtok_r` return: what stands between delimiters, less the empty ones. -/
def strtok (delim : α → Bool) (s : List α) : List (List α) := (s.splitOnP delim).filter (! ·.isEmpty)

/-- What can be a token. -/
structure Token (delim : α → Bool) (w : List α) : Prop where
  nonempty : w ≠ []
  plain : ∀ c ∈ w, delim c = false

theorem mem_splitOnP {s w : List α} (piece : w ∈ s.splitOnP delim) : ∀ c ∈ w, delim c = false ∧ c ∈ s := by
  induction s generalizing w with
  | nil =>
    simp only [List.splitOnP_nil, List.mem_singleton] at piece
    simp [piece]
  | cons x s ih =>
    rw [List.splitOnP_cons_eq_if_modifyHead] at piece
    by_cases sep : delim x = true
    · rw [if_pos sep, List.mem_cons] at piece
      intro c inside
      rcases piece with rfl | piece
      · simp at inside
      · exact ⟨(ih piece c inside).1, List.mem_cons_of_mem x (ih piece c inside).2⟩
    · rw [if_neg sep] at piece
      obtain ⟨first, others, pieces⟩ := List.exists_cons_of_ne_nil (List.splitOnP_ne_nil delim s)
      rw [pieces, List.modifyHead_cons, List.mem_cons] at piece
      have mem : ∀ v ∈ first :: others, ∀ c ∈ v, delim c = false ∧ c ∈ x :: s := by
        intro v own c inside
        rw [← pieces] at own
        exact ⟨(ih own c inside).1, List.mem_cons_of_mem x (ih own c inside).2⟩
      rcases piece with rfl | piece
      · rintro c (- | ⟨_, inside⟩)
        · exact ⟨by simpa using sep, List.mem_cons_self⟩
        · exact mem first List.mem_cons_self c inside
      · exact mem w (List.mem_cons_of_mem first piece)

/-- The tokens of a string. -/
theorem mem_strtok {s w : List α} (token : w ∈ strtok delim s) : Token delim w ∧ ∀ c ∈ w, c ∈ s := by
  simp only [strtok, List.mem_filter, Bool.not_eq_true', List.isEmpty_eq_false_iff] at token
  obtain ⟨piece, nonempty⟩ := token
  exact ⟨⟨nonempty, fun c inside => (mem_splitOnP piece c inside).1⟩, fun c inside => (mem_splitOnP piece c inside).2⟩

theorem strtok_token {w : List α} (token : Token delim w) : strtok delim w = [w] := by
  have nonempty : w.isEmpty = false := List.isEmpty_eq_false_iff.2 token.nonempty
  rw [strtok, List.splitOnP_eq_singleton token.plain]
  simp [nonempty]

theorem strtok_append_cons {w rest : List α} {sep : α} (token : Token delim w) (separates : delim sep = true) :
    strtok delim (w ++ sep :: rest) = w :: strtok delim rest := by
  have nonempty : w.isEmpty = false := List.isEmpty_eq_false_iff.2 token.nonempty
  rw [strtok, List.splitOnP_append_cons_of_forall_mem token.plain sep separates rest]
  simp [nonempty, strtok]

theorem intercalate_cons_cons (sep : α) (w v : List α) (ws : List (List α)) :
    [sep].intercalate (w :: v :: ws) = w ++ sep :: [sep].intercalate (v :: ws) := by
  simp [List.intercalate]

theorem mem_intercalate {sep c : α} {ws : List (List α)} (inside : c ∈ [sep].intercalate ws) :
    c = sep ∨ ∃ w ∈ ws, c ∈ w := by
  induction ws with
  | nil => simp [List.intercalate] at inside
  | cons w ws ih =>
    match ws with
    | [] => exact .inr ⟨w, List.mem_cons_self, by simpa [List.intercalate] using inside⟩
    | v :: ws =>
      rw [intercalate_cons_cons, List.mem_append, List.mem_cons] at inside
      rcases inside with inside | same | inside
      · exact .inr ⟨w, List.mem_cons_self, inside⟩
      · exact .inl same
      · rcases ih inside with same | ⟨u, own, inside⟩
        · exact .inl same
        · exact .inr ⟨u, List.mem_cons_of_mem w own, inside⟩

theorem strtok_cons {sep : α} (separates : delim sep = true) (s : List α) : strtok delim (sep :: s) = strtok delim s := by
  rw [strtok, List.splitOnP_cons_eq_if_modifyHead, if_pos separates]
  rfl

theorem strtok_gap {gap : List α} (separates : ∀ c ∈ gap, delim c = true) (s : List α) :
    strtok delim (gap ++ s) = strtok delim s := by
  induction gap with
  | nil => rfl
  | cons c gap ih =>
    rw [List.cons_append, strtok_cons (separates c List.mem_cons_self)]
    exact ih fun x mem => separates x (List.mem_cons_of_mem c mem)

/-- Tokens written with delimiters around them, and at least one between any two. -/
inductive Spaced (delim : α → Bool) : List (List α) → List α → Prop where
  | done {gap : List α} (separates : ∀ c ∈ gap, delim c = true) : Spaced delim [] gap
  | token {gap w rest : List α} {ws : List (List α)} (separates : ∀ c ∈ gap, delim c = true)
      (apart : ∀ c, rest.head? = some c → delim c = true) (later : Spaced delim ws rest) :
      Spaced delim (w :: ws) (gap ++ (w ++ rest))

/-- However they are spaced, tokens are read back. -/
theorem strtok_spaced {ws : List (List α)} {s : List α} (spaced : Spaced delim ws s)
    (tokens : ∀ w ∈ ws, Token delim w) : strtok delim s = ws := by
  induction spaced with
  | @done gap separates =>
    have only := strtok_gap separates []
    rw [List.append_nil] at only
    exact only
  | @token gap w rest ws separates apart later ih =>
    have token : Token delim w := tokens w List.mem_cons_self
    have behind := ih fun v own => tokens v (List.mem_cons_of_mem w own)
    rw [strtok_gap separates]
    cases rest with
    | nil =>
      rw [List.append_nil, strtok_token token, ← behind]
      rfl
    | cons c rest =>
      have separates : delim c = true := apart c rfl
      rw [strtok_append_cons token separates, ← behind, strtok_cons separates]

theorem Spaced.cons {c : α} (separates : delim c = true) {ws : List (List α)} {s : List α}
    (spaced : Spaced delim ws s) : Spaced delim ws (c :: s) := by
  cases spaced with
  | done gap => exact .done (List.forall_mem_cons.2 ⟨separates, gap⟩)
  | token gap apart later =>
    rw [← List.cons_append]
    exact .token (List.forall_mem_cons.2 ⟨separates, gap⟩) apart later

theorem spaced_intercalate {sep : α} (separates : delim sep = true) (ws : List (List α)) :
    Spaced delim ws ([sep].intercalate ws) := by
  have empty : ∀ c ∈ ([] : List α), delim c = true := fun c none => absurd none List.not_mem_nil
  induction ws with
  | nil => exact .done empty
  | cons w ws ih =>
    cases ws with
    | nil =>
      have alone : [sep].intercalate [w] = [] ++ (w ++ []) := by
        simp [List.intercalate]
      rw [alone]
      exact .token empty (fun c none => absurd none (by simp)) (.done empty)
    | cons v ws =>
      have next : ∀ c, (sep :: [sep].intercalate (v :: ws)).head? = some c → delim c = true := by
        rintro c ⟨⟩
        exact separates
      rw [intercalate_cons_cons, ← List.nil_append (w ++ _)]
      exact .token empty next (ih.cons separates)

/-- Tokens written with one separator between them are read back. -/
theorem strtok_intercalate {sep : α} (separates : delim sep = true) {ws : List (List α)}
    (tokens : ∀ w ∈ ws, Token delim w) : strtok delim ([sep].intercalate ws) = ws :=
  strtok_spaced (spaced_intercalate separates ws) tokens

theorem mem_spaced {ws : List (List α)} {s : List α} (spaced : Spaced delim ws s) {c : α} (inside : c ∈ s) :
    delim c = true ∨ ∃ w ∈ ws, c ∈ w := by
  induction spaced with
  | done separates => exact .inl (separates c inside)
  | @token gap w rest ws separates apart later ih =>
    rw [List.mem_append, List.mem_append] at inside
    rcases inside with inside | inside | inside
    · exact .inl (separates c inside)
    · exact .inr ⟨w, List.mem_cons_self, inside⟩
    · rcases ih inside with delimiter | ⟨v, own, inside⟩
      · exact .inl delimiter
      · exact .inr ⟨v, List.mem_cons_of_mem w own, inside⟩

end Tokens

/-! ## Decimal numbers -/

/-- What a conversion returned: the value, `*end` on, and whether `errno` was set to `ERANGE`. -/
structure Conversion (α : Type) where
  value : α
  rest : List UInt8
  erange : Bool := false
  deriving DecidableEq, Repr

/-- The optional sign of a subject sequence: whether it is `-`, and what follows it. -/
def takeSign : List UInt8 → Bool × List UInt8
  | 0x2d :: t => (true, t)
  | 0x2b :: t => (false, t)
  | t => (false, t)

/-- The value of a string of digits. -/
def digitsValue (digits : List UInt8) : Nat := digits.foldl (fun v d => 10 * v + (d - 0x30).toNat) 0

/-- `strtoul(s, &end, 10)`: a minus sign negates the value in `unsigned long`. -/
def strtoul (s : List UInt8) : Conversion Nat :=
  let (negative, t) := takeSign (s.dropWhile isspace)
  let digits := t.takeWhile isdigit
  let rest := t.dropWhile isdigit
  let v := digitsValue digits
  if digits = [] then { value := 0, rest := s }
  else if 18446744073709551615 < v then { value := 18446744073709551615, rest := rest, erange := true }
  else { value := if negative then (18446744073709551616 - v) % 18446744073709551616 else v, rest := rest }

/-- `strtol(s, &end, 10)`. -/
def strtol (s : List UInt8) : Conversion Int :=
  let (negative, t) := takeSign (s.dropWhile isspace)
  let digits := t.takeWhile isdigit
  let rest := t.dropWhile isdigit
  let v : Int := if negative then - digitsValue digits else digitsValue digits
  if digits = [] then { value := 0, rest := s }
  else if 9223372036854775807 < v then { value := 9223372036854775807, rest := rest, erange := true }
  else if v < -9223372036854775808 then { value := -9223372036854775808, rest := rest, erange := true }
  else { value := v, rest := rest }

/-- A number as `printf` writes it with `%u`. -/
def decimal (n : Nat) : List UInt8 := (Nat.toDigits 10 n).map asciiByte

theorem decimal_ne_nil (n : Nat) : decimal n ≠ [] := by
  simp [decimal, Nat.toDigits_ne_nil]

theorem isdigit_asciiByte {d : Nat} (small : d < 10) :
    isdigit (asciiByte d.digitChar) = true ∧ (asciiByte d.digitChar - 0x30).toNat = d := by
  revert d
  decide

theorem decimal_digits (n : Nat) : ∀ c ∈ decimal n, isdigit c = true := by
  induction n using Nat.strong_induction_on with
  | _ n ih =>
    rw [decimal, Nat.toDigits_eq_if (by decide)]
    by_cases small : n < 10
    · simp [small, (isdigit_asciiByte small).1]
    · have last := (isdigit_asciiByte (Nat.mod_lt n (show 0 < 10 by decide))).1
      have front := ih (n / 10) (by omega)
      simp only [decimal] at front
      rw [if_neg small, List.map_append]
      intro c inside
      rcases List.mem_append.1 inside with inside | inside
      · exact front c inside
      · simp only [List.map_cons, List.map_nil, List.mem_singleton] at inside
        rw [inside]
        exact last

theorem digitsValue_decimal (n : Nat) : digitsValue (decimal n) = n := by
  induction n using Nat.strong_induction_on with
  | _ n ih =>
    rw [decimal, Nat.toDigits_eq_if (by decide)]
    by_cases small : n < 10
    · simp [small, digitsValue, (isdigit_asciiByte small).2]
    · have last := (isdigit_asciiByte (Nat.mod_lt n (show 0 < 10 by decide))).2
      have front := ih (n / 10) (by omega)
      simp only [digitsValue, decimal] at front
      rw [if_neg small, List.map_append, digitsValue, List.foldl_append, front]
      simp only [List.map_cons, List.map_nil, List.foldl_cons, List.foldl_nil, last]
      omega

/-- A digit is none of the other characters. -/
theorem digit_ne {c x : UInt8} (digit : isdigit c = true) (other : isdigit x = false) : c ≠ x := by
  rintro rfl
  rw [digit] at other
  cases other

theorem not_isspace_of_isdigit {c : UInt8} (digit : isdigit c = true) : isspace c = false ∧ c ≠ 0x2d ∧ c ≠ 0x2b := by
  simp only [isdigit, isspace, Bool.and_eq_true, Bool.or_eq_false_iff, Bool.and_eq_false_iff, decide_eq_true_eq,
    decide_eq_false_iff_not, beq_eq_false_iff_ne, ← UInt8.toNat_inj, UInt8.le_iff_toNat_le, ne_eq] at digit ⊢
  simp only [UInt8.reduceToNat] at digit ⊢
  omega

/-- A string of digits is its own subject sequence. -/
theorem takeSign_digits {ds : List UInt8} (digits : ∀ c ∈ ds, isdigit c = true) :
    takeSign (ds.dropWhile isspace) = (false, ds) := by
  match ds with
  | [] => rfl
  | c :: ds =>
    obtain ⟨solid, minus, plus⟩ := not_isspace_of_isdigit (digits c List.mem_cons_self)
    rw [List.dropWhile_cons_of_neg (by simp [solid])]
    simp [takeSign, minus, plus]

theorem strtoul_decimal {n : Nat} (small : n ≤ 18446744073709551615) :
    strtoul (decimal n) = { value := n, rest := [] } := by
  have digits := decimal_digits n
  simp only [strtoul, takeSign_digits digits, List.takeWhile_eq_self_iff.2 digits, List.dropWhile_eq_nil_iff.2 digits,
    digitsValue_decimal, decimal_ne_nil, if_false, Bool.false_eq_true]
  exact if_neg (by omega)

theorem strtol_decimal {n : Nat} (small : n ≤ 9223372036854775807) :
    strtol (decimal n) = { value := n, rest := [] } := by
  have digits := decimal_digits n
  simp only [strtol, takeSign_digits digits, List.takeWhile_eq_self_iff.2 digits, List.dropWhile_eq_nil_iff.2 digits,
    digitsValue_decimal, decimal_ne_nil, if_false, Bool.false_eq_true]
  rw [if_neg (by omega), if_neg (by omega)]

/-! ## Numerals

What `strtoul` and `strtol` convert to the last byte: spaces, a sign and digits. -/

/-- The sign in front of a number. -/
inductive Sign where
  | none
  | plus
  | minus
  deriving DecidableEq, Repr

def Sign.text : Sign → List UInt8
  | .none => []
  | .plus => [0x2b]
  | .minus => [0x2d]

/-- `s` is a number: the spaces `ws`, the sign and the digits `ds`. -/
structure Numeral (s ws : List UInt8) (sign : Sign) (ds : List UInt8) : Prop where
  text : s = ws ++ (sign.text ++ ds)
  spaces : ∀ c ∈ ws, isspace c = true
  digits : ∀ c ∈ ds, isdigit c = true
  nonempty : ds ≠ []

theorem Numeral.ne_nil {s ws ds : List UInt8} {sign : Sign} (numeral : Numeral s ws sign ds) : s ≠ [] := by
  rw [numeral.text]
  simp [numeral.nonempty]

theorem dropWhile_spaces {ws t : List UInt8} (spaces : ∀ c ∈ ws, isspace c = true) :
    (ws ++ t).dropWhile isspace = t.dropWhile isspace := by
  induction ws with
  | nil => rfl
  | cons c ws ih =>
    rw [List.cons_append, List.dropWhile_cons_of_pos (spaces c List.mem_cons_self)]
    exact ih fun x mem => spaces x (List.mem_cons_of_mem c mem)

theorem Numeral.takeSign {s ws ds : List UInt8} {sign : Sign} (numeral : Numeral s ws sign ds) :
    takeSign (s.dropWhile isspace) = (decide (sign = .minus), ds) := by
  rw [numeral.text, dropWhile_spaces numeral.spaces]
  cases sign with
  | none => exact takeSign_digits numeral.digits
  | plus => rfl
  | minus => rfl

/-- `strtoul` of a number. -/
theorem Numeral.strtoul {s ws ds : List UInt8} {sign : Sign} (numeral : Numeral s ws sign ds) :
    strtoul s =
      if 18446744073709551615 < digitsValue ds then { value := 18446744073709551615, rest := [], erange := true }
      else
        { value := if sign = .minus then (18446744073709551616 - digitsValue ds) % 18446744073709551616
            else digitsValue ds, rest := [] } := by
  simp only [Lib.strtoul, numeral.takeSign, List.takeWhile_eq_self_iff.2 numeral.digits,
    List.dropWhile_eq_nil_iff.2 numeral.digits, if_neg numeral.nonempty, decide_eq_true_eq]

/-- `strtol` of a number. -/
theorem Numeral.strtol {s ws ds : List UInt8} {sign : Sign} (numeral : Numeral s ws sign ds) :
    strtol s =
      let v : Int := if sign = .minus then - digitsValue ds else digitsValue ds
      if 9223372036854775807 < v then { value := 9223372036854775807, rest := [], erange := true }
      else if v < -9223372036854775808 then { value := -9223372036854775808, rest := [], erange := true }
      else { value := v, rest := [] } := by
  simp only [Lib.strtol, numeral.takeSign, List.takeWhile_eq_self_iff.2 numeral.digits,
    List.dropWhile_eq_nil_iff.2 numeral.digits, if_neg numeral.nonempty, decide_eq_true_eq]

/-- A sign is taken off as it is written. -/
theorem takeSign_text (t : List UInt8) : ∃ sign : Sign, t = sign.text ++ (takeSign t).2 := by
  unfold takeSign
  split
  · exact ⟨.minus, rfl⟩
  · exact ⟨.plus, rfl⟩
  · exact ⟨.none, rfl⟩

/-- A text that is digits from its sign on is a number. -/
theorem numeral_of_digits {s : List UInt8} (some : (takeSign (s.dropWhile isspace)).2.takeWhile isdigit ≠ [])
    (all : (takeSign (s.dropWhile isspace)).2.dropWhile isdigit = []) :
    ∃ sign, Numeral s (s.takeWhile isspace) sign (takeSign (s.dropWhile isspace)).2 := by
  obtain ⟨sign, signed⟩ := takeSign_text (s.dropWhile isspace)
  refine ⟨sign, ?_, fun c own => List.mem_takeWhile_imp own, List.dropWhile_eq_nil_iff.1 all, ?_⟩
  · rw [← signed, List.takeWhile_append_dropWhile]
  · intro empty
    rw [empty] at some
    exact some rfl

theorem numeral_of_strtoul {s : List UInt8} (nonempty : s ≠ []) (all : (strtoul s).rest = []) :
    ∃ ws sign ds, Numeral s ws sign ds := by
  simp only [strtoul] at all
  split_ifs at all with none
  · exact absurd all nonempty
  all_goals
    obtain ⟨sign, numeral⟩ := numeral_of_digits none all
    exact ⟨_, sign, _, numeral⟩

theorem numeral_of_strtol {s : List UInt8} (nonempty : s ≠ []) (all : (strtol s).rest = []) :
    ∃ ws sign ds, Numeral s ws sign ds := by
  simp only [strtol] at all
  split_ifs at all with none
  · exact absurd all nonempty
  all_goals
    obtain ⟨sign, numeral⟩ := numeral_of_digits none all
    exact ⟨_, sign, _, numeral⟩

end Lib
