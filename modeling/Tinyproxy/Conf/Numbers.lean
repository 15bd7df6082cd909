import Tinyproxy.Conf.WellFormed

/-!
# The numeric fields

`parse_port` and `parse_positive_int` check what `strtoul` and `strtol` return: that
`errno` is clear, that nothing is left over and that the value is in range. Neither
looks at the first byte, so that what the library skips in front of the digits is
accepted too: spaces, a plus sign and, for a port, a minus sign with a number just
below `2^64`.
-/

namespace Tinyproxy

open Lib (ascii isspace isdigit strtol strtoul digitsValue Numeral Sign)

/-- A non-empty string of digits with a value in `1..hi`. -/
def IsDecimal (hi : Nat) (s : Bytes) : Prop :=
  s ≠ [] ∧ (∀ c ∈ s, isdigit c = true) ∧ 1 ≤ digitsValue s ∧ digitsValue s ≤ hi

/-- The number behind a sign that `strtoul` makes a port of. -/
def PortNumber : Sign → Nat → Prop
  | .minus, n => 18446744073709486081 ≤ n ∧ n ≤ 18446744073709551615
  | _, n => 1 ≤ n ∧ n ≤ 65535

/-- The port that is stored for it. -/
def portValue : Sign → Nat → Nat
  | .minus, n => 18446744073709551616 - n
  | _, n => n

/-- A port with spaces or a sign in front of its digits. -/
def LoosePort (s : Bytes) : Prop :=
  ∃ ws sign ds, Numeral s ws sign ds ∧ (ws ≠ [] ∨ sign ≠ .none) ∧ PortNumber sign (digitsValue ds)

/-- A number of seconds with spaces or a plus sign in front of its digits. -/
def LooseInt (s : Bytes) : Prop :=
  ∃ ws sign ds, Numeral s ws sign ds ∧ (ws ≠ [] ∨ sign ≠ .none) ∧ sign ≠ .minus ∧
    1 ≤ digitsValue ds ∧ digitsValue ds ≤ 2147483647

/-- Behind a space or a sign a string of digits does not start. -/
theorem numeral_loose {s ws ds : Bytes} {sign : Sign} (numeral : Numeral s ws sign ds)
    (loose : ws ≠ [] ∨ sign ≠ .none) : ¬ ∀ c ∈ s, isdigit c = true := by
  intro digits
  rw [numeral.text] at digits
  cases ws with
  | cons c ws =>
    have solid := (Lib.not_isspace_of_isdigit (digits c (by simp))).1
    rw [numeral.spaces c List.mem_cons_self] at solid
    cases solid
  | nil =>
    cases sign with
    | none => simp at loose
    | plus => exact absurd (digits 0x2b (by simp [Sign.text])) (by decide)
    | minus => exact absurd (digits 0x2d (by simp [Sign.text])) (by decide)

theorem numeral_digits {s : Bytes} (nonempty : s ≠ []) (digits : ∀ c ∈ s, isdigit c = true) :
    Numeral s [] .none s :=
  ⟨rfl, fun _ none => absurd none List.not_mem_nil, digits, nonempty⟩

/-- With nothing in front of them the digits are the text. -/
theorem numeral_bare {s ws ds : Bytes} {sign : Sign} (numeral : Numeral s ws sign ds)
    (bare : ¬ (ws ≠ [] ∨ sign ≠ .none)) : sign = .none ∧ s = ds := by
  push Not at bare
  obtain ⟨rfl, rfl⟩ := bare
  exact ⟨rfl, numeral.text⟩

/-! ## Ports -/

section PortNumber

variable {sign : Sign} {n : Nat}

theorem PortNumber.fits (number : PortNumber sign n) : n ≤ 18446744073709551615 := by
  cases sign with
  | minus | none | plus =>
    simp only [PortNumber] at number
    omega

theorem PortNumber.bounds (number : PortNumber sign n) : 1 ≤ portValue sign n ∧ portValue sign n ≤ 65535 := by
  cases sign with
  | minus | none | plus =>
    simp only [PortNumber, portValue] at number ⊢
    omega

/-- What `strtoul` makes of the number, when it is a port. -/
theorem PortNumber.converted (number : PortNumber sign n) :
    (if sign = .minus then (18446744073709551616 - n) % 18446744073709551616 else n) = portValue sign n := by
  cases sign with
  | minus =>
    simp only [if_true, PortNumber, portValue] at number ⊢
    omega
  | none | plus => rfl

theorem portNumber_of_converted {v : Nat} (fits : n ≤ 18446744073709551615)
    (converted : (if sign = .minus then (18446744073709551616 - n) % 18446744073709551616 else n) = v)
    (positive : 1 ≤ v) (small : v ≤ 65535) : PortNumber sign n := by
  cases sign with
  | minus =>
    simp only [if_true, PortNumber] at converted ⊢
    omega
  | none | plus =>
    simp only [reduceCtorEq, if_false, PortNumber] at converted ⊢
    omega

end PortNumber

/-- What `parse_port` accepts. -/
theorem parsePort_iff {s : Bytes} {v : UInt16} :
    parsePort s = some v ↔
      ∃ ws sign ds, Numeral s ws sign ds ∧ PortNumber sign (digitsValue ds) ∧
        v.toNat = portValue sign (digitsValue ds) := by
  constructor
  · intro parsed
    simp only [parsePort] at parsed
    split at parsed
    · cases parsed
    · rename_i good
      cases parsed
      push Not at good
      obtain ⟨range, nonempty, all, positive, small⟩ := good
      obtain ⟨ws, sign, ds, numeral⟩ := Lib.numeral_of_strtoul nonempty all
      rw [numeral.strtoul] at range positive small ⊢
      split at range
      · simp at range
      · rename_i fits
        rw [if_neg fits] at positive small ⊢
        dsimp only at positive small ⊢
        have number : PortNumber sign (digitsValue ds) :=
          portNumber_of_converted (by omega) rfl (by omega) small
        refine ⟨ws, sign, ds, numeral, number, ?_⟩
        rw [UInt16.toNat_ofNat_of_lt' (by show _ < 65536; omega)]
        exact number.converted
  · rintro ⟨ws, sign, ds, numeral, number, value⟩
    have fits := number.fits
    have bounds := number.bounds
    simp only [parsePort, numeral.strtoul, if_neg (show ¬ 18446744073709551615 < digitsValue ds by omega),
      number.converted, ← value]
    rw [if_neg, UInt16.ofNat_toNat]
    simp only [Bool.false_eq_true, numeral.ne_nil, ne_eq, not_true_eq_false, false_or]
    omega

/-- `parse_port` keeps to the digits unless the text has something in front of them. -/
theorem parsePort_exact (s : Bytes) :
    (∀ v, parsePort s = some v ↔ IsDecimal 65535 s ∧ v.toNat = digitsValue s) ↔ ¬ LoosePort s := by
  constructor
  · rintro exactly ⟨ws, sign, ds, numeral, loose, number⟩
    have bounds := number.bounds
    have parsed := parsePort_iff.2
      ⟨ws, sign, ds, numeral, number, UInt16.toNat_ofNat_of_lt' (by show _ < 65536; omega)⟩
    exact numeral_loose numeral loose ((exactly _).1 parsed).1.2.1
  · intro strict v
    constructor
    · intro parsed
      obtain ⟨ws, sign, ds, numeral, number, value⟩ := parsePort_iff.1 parsed
      obtain ⟨rfl, rfl⟩ := numeral_bare numeral fun loose => strict ⟨ws, sign, ds, numeral, loose, number⟩
      exact ⟨⟨numeral.nonempty, numeral.digits, number⟩, value⟩
    · rintro ⟨⟨nonempty, digits, number⟩, value⟩
      exact parsePort_iff.2 ⟨[], .none, s, numeral_digits nonempty digits, number, value⟩

/-! ## Seconds -/

/-- What `parse_positive_int` accepts. -/
theorem parsePositiveInt_iff {s : Bytes} {v : Int} :
    parsePositiveInt s = .ok v ↔
      ∃ ws sign ds, Numeral s ws sign ds ∧ sign ≠ .minus ∧ 1 ≤ digitsValue ds ∧ digitsValue ds ≤ 2147483647 ∧
        v = digitsValue ds := by
  constructor
  · intro parsed
    simp only [parsePositiveInt] at parsed
    split at parsed
    · cases parsed
    rename_i nonempty
    split at parsed
    · cases parsed
    rename_i converted
    split at parsed
    · cases parsed
    rename_i bounds
    cases parsed
    push Not at converted bounds
    obtain ⟨ws, sign, ds, numeral⟩ := Lib.numeral_of_strtol nonempty converted.2.2
    have range := converted.1
    refine ⟨ws, sign, ds, numeral, ?_⟩
    rw [numeral.strtol] at bounds range ⊢
    simp only [intMax] at bounds range ⊢
    cases sign with
    | minus =>
      simp only [if_true] at bounds range
      split_ifs at bounds range
      all_goals
        simp only at bounds
        omega
    | none | plus =>
      simp only [reduceCtorEq, if_false] at bounds range ⊢
      split_ifs at bounds range ⊢
      all_goals
        simp only [ne_eq, reduceCtorEq, not_false_eq_true, true_and, and_true] at bounds ⊢
        omega
  · rintro ⟨ws, sign, ds, numeral, plain, positive, small, rfl⟩
    have nonempty := numeral.ne_nil
    simp only [parsePositiveInt, numeral.strtol, if_neg plain, if_neg nonempty, intMax]
    rw [if_neg (show ¬ (9223372036854775807 : Int) < digitsValue ds by omega),
      if_neg (show ¬ (digitsValue ds : Int) < -9223372036854775808 by omega)]
    simp only [Bool.false_eq_true, nonempty.symm, ne_eq, not_true_eq_false, or_self, if_false]
    exact if_neg (by omega)

/-- `parse_positive_int` keeps to the digits unless the text has something in front of them. -/
theorem parsePositiveInt_exact (s : Bytes) :
    (∀ v, parsePositiveInt s = .ok v ↔ IsDecimal 2147483647 s ∧ v = digitsValue s) ↔ ¬ LooseInt s := by
  constructor
  · rintro exactly ⟨ws, sign, ds, numeral, loose, plain, number⟩
    have parsed := parsePositiveInt_iff.2 ⟨ws, sign, ds, numeral, plain, number.1, number.2, rfl⟩
    exact numeral_loose numeral loose ((exactly _).1 parsed).1.2.1
  · intro strict v
    constructor
    · intro parsed
      obtain ⟨ws, sign, ds, numeral, plain, positive, small, value⟩ := parsePositiveInt_iff.1 parsed
      obtain ⟨rfl, rfl⟩ := numeral_bare numeral fun loose =>
        strict ⟨ws, sign, ds, numeral, loose, plain, positive, small⟩
      exact ⟨⟨numeral.nonempty, numeral.digits, positive, small⟩, value⟩
    · rintro ⟨⟨nonempty, digits, positive, small⟩, value⟩
      exact parsePositiveInt_iff.2
        ⟨[], .none, s, numeral_digits nonempty digits, by decide, positive, small, value⟩

/-! ## Hosts with ports -/

/-- The form `split_host_port` reads: its input, the host it stores, the port text and whether there were brackets. -/
inductive HostPort (hostLen : Nat) : Bytes → Bytes → Bytes → Bool → Prop where
  | bracketed {host port : Bytes} (nonempty : host ≠ []) (fits : host.length < hostLen) (close : 0x5d ∉ host) :
      HostPort hostLen (0x5b :: (host ++ 0x5d :: 0x3a :: port)) host port true
  | plain {host port : Bytes} (bracket : host.head? ≠ some 0x5b) (fits : host.length < hostLen) (before : 0x3a ∉ host)
      (behind : 0x3a ∉ port) :
      HostPort hostLen (host ++ 0x3a :: port) (if host = [] then (ascii "0.0.0.0").take (hostLen - 1) else host) port false

theorem parsePort_nil : parsePort [] = none := rfl

/-- The text from the first `x` on. -/
theorem split_at {x : UInt8} {s rest : Bytes} {c : UInt8} (found : s.dropWhile (· != x) = c :: rest) :
    s = s.takeWhile (· != x) ++ x :: rest := by
  have first : c = x := by
    have := List.head?_dropWhile_not (· != x) s
    rw [found] at this
    simpa using this
  rw [← first, ← found, first, List.takeWhile_append_dropWhile]

theorem splitHostPort_form {input host : Bytes} {hostLen : Nat} {v : UInt16} {six : Bool}
    (found : splitHostPort input hostLen = some (host, v, six)) :
    ∃ port, HostPort hostLen input host port six ∧ parsePort port = some v := by
  simp only [splitHostPort] at found
  split at found
  case isTrue bracket =>
    split at found
    case h_2 => cases found
    case h_1 close colon portS rest =>
      split at found
      · cases found
      rename_i only
      split at found
      · cases found
      case isFalse fits =>
        obtain ⟨number, parsed, own⟩ := Option.map_eq_some_iff.1 found
        cases own
        push Not at fits only
        obtain ⟨tail, rfl⟩ : ∃ tail, input = 0x5b :: tail := List.head?_eq_some_iff.1 bracket
        have whole := split_at rest
        rw [List.drop_one, List.tail_cons] at whole fits ⊢
        have form : HostPort hostLen (0x5b :: (tail.takeWhile (· != 0x5d) ++ 0x5d :: 0x3a :: portS))
            (tail.takeWhile (· != 0x5d)) portS true :=
          .bracketed (List.ne_nil_of_length_pos (by omega)) fits.2.1 not_mem_takeWhile
        rw [only] at whole
        rw [← whole] at form
        exact ⟨portS, form, parsed⟩
  case isFalse bracket =>
    split at found
    case h_1 => cases found
    case h_2 colon portS rest =>
      split at found
      · cases found
      rename_i single
      split at found
      · cases found
      case isFalse fits =>
        obtain ⟨number, parsed, own⟩ := Option.map_eq_some_iff.1 found
        cases own
        push Not at fits
        have whole := split_at rest
        have form : HostPort hostLen (input.takeWhile (· != 0x3a) ++ 0x3a :: portS) _ portS false :=
          .plain (fun first => bracket ?_) fits.1 not_mem_takeWhile single
        · rw [← whole] at form
          exact ⟨portS, form, parsed⟩
        · rw [whole, List.head?_append, first]
          rfl

theorem plain_head {host port : Bytes} (bracket : host.head? ≠ some 0x5b) : (host ++ 0x3a :: port).head? ≠ some 0x5b := by
  cases host with
  | nil => simp
  | cons c host => exact bracket

/-- `split_host_port` reads a host and a port. -/
theorem splitHostPort_iff {input host : Bytes} {hostLen : Nat} {v : UInt16} {six : Bool} :
    splitHostPort input hostLen = some (host, v, six) ↔
      ∃ port, HostPort hostLen input host port six ∧ parsePort port = some v := by
  constructor
  · exact splitHostPort_form
  · rintro ⟨port, form, parsed⟩
    have some : port ≠ [] := by
      rintro rfl
      rw [parsePort_nil] at parsed
      cases parsed
    cases form with
    | bracketed nonempty fits close =>
      simp only [splitHostPort, List.head?_cons, if_true, List.drop_one, List.tail_cons, takeWhile_before close,
        dropWhile_before close, ne_eq, not_true_eq_false, if_false, parsed, Option.map_some]
      exact if_neg (by simp [nonempty, some, fits])
    | plain bracket fits before behind =>
      simp only [splitHostPort, if_neg (plain_head bracket), takeWhile_before before, dropWhile_before before,
        if_neg behind, parsed, Option.map_some]
      exact if_neg (by simp [some, fits])

/-- An input has one port. -/
theorem HostPort.port_eq {hostLen : Nat} {input host port : Bytes} {six : Bool}
    (form : HostPort hostLen input host port six) :
    port = if input.head? = some 0x5b then ((input.drop 1).dropWhile (· != 0x5d)).drop 2
      else (input.dropWhile (· != 0x3a)).drop 1 := by
  cases form with
  | bracketed nonempty fits close =>
    simp only [List.head?_cons, if_true, List.drop_one, List.tail_cons, dropWhile_before close]
    rfl
  | plain bracket fits before behind =>
    rw [if_neg (plain_head bracket), dropWhile_before before]
    rfl

/-- `split_host_port` keeps to the digits of the port unless there is something in front of them. -/
theorem splitHostPort_exact (input : Bytes) (hostLen : Nat) :
    (∀ host v six, splitHostPort input hostLen = some (host, v, six) ↔
      ∃ port, HostPort hostLen input host port six ∧ IsDecimal 65535 port ∧ v.toNat = digitsValue port) ↔
      ¬ ∃ host port six, HostPort hostLen input host port six ∧ LoosePort port := by
  constructor
  · rintro exactly ⟨host, port, six, form, loose⟩
    apply (parsePort_exact port).1 ?_ loose
    intro v
    have strict := exactly host v six
    rw [splitHostPort_iff] at strict
    constructor
    · intro parsed
      obtain ⟨other, same, decimal⟩ := strict.1 ⟨port, form, parsed⟩
      rwa [form.port_eq, ← same.port_eq]
    · intro decimal
      obtain ⟨other, same, parsed⟩ := strict.2 ⟨port, form, decimal⟩
      rwa [form.port_eq, ← same.port_eq]
  · intro strict host v six
    rw [splitHostPort_iff]
    apply exists_congr
    intro port
    apply and_congr_right
    intro form
    exact (parsePort_exact port).2 (fun loose => strict ⟨host, port, six, form, loose⟩) v

/-- **Numeric fields.** Ports, the ports of hosts and numbers of seconds are read as plain decimal
numbers in range, and nothing else is accepted, exactly on the texts without spaces or a sign in
front of a number that the conversion brings into range. -/
theorem numeric_fields_exact_iff (s : Bytes) (hostLen : Nat) :
    ((∀ v, parsePort s = some v ↔ IsDecimal 65535 s ∧ v.toNat = digitsValue s) ↔ ¬ LoosePort s) ∧
    ((∀ host v six, splitHostPort s hostLen = some (host, v, six) ↔
        ∃ port, HostPort hostLen s host port six ∧ IsDecimal 65535 port ∧ v.toNat = digitsValue port) ↔
      ¬ ∃ host port six, HostPort hostLen s host port six ∧ LoosePort port) ∧
    ((∀ v, parsePositiveInt s = .ok v ↔ IsDecimal 2147483647 s ∧ v = digitsValue s) ↔ ¬ LooseInt s) :=
  ⟨parsePort_exact s, splitHostPort_exact s hostLen, parsePositiveInt_exact s⟩

/-- A port of `-18446744073709551615` is port 1, and a plus sign is accepted by all three. -/
theorem numeric_fields_signed :
    parsePort (ascii "-18446744073709551615") = some 1 ∧ ¬ IsDecimal 65535 (ascii "-18446744073709551615") ∧
      parsePort (ascii "+80") = some 80 ∧ ¬ IsDecimal 65535 (ascii "+80") ∧
      splitHostPort (ascii ":+80") endpointHostSize = some (ascii "0.0.0.0", 80, false) ∧
      parsePositiveInt (ascii "+5") = .ok 5 ∧ ¬ IsDecimal 2147483647 (ascii "+5") := by
  have sign {hi : Nat} {c : UInt8} {s : Bytes} (other : isdigit c = false) : ¬ IsDecimal hi (c :: s) := by
    rintro ⟨-, digits, -⟩
    rw [digits c List.mem_cons_self] at other
    cases other
  exact ⟨by decide +kernel, sign (by decide), by decide +kernel, sign (by decide), by decide +kernel,
    by decide +kernel, sign (by decide)⟩

end Tinyproxy
