import Tinyproxy.Lib.Hexadecimal

/-!
# Addresses into text

`inet_ntop` for the two address families: an IPv4 address as four decimal octets, an
IPv6 address as groups of hexadecimal digits in which the first longest run of two or
more zero groups is written `::`, and the last two groups as an IPv4 address where the
address is an IPv4-compatible or IPv4-mapped one. What it writes `inet_pton` reads back.
-/

namespace Lib

/-! ## Words between separators -/

theorem length_intercalate_lt {sep : UInt8} {ws : List (List UInt8)} {k : Nat} (some : ws ≠ [])
    (short : ∀ w ∈ ws, w.length ≤ k) : ([sep].intercalate ws).length < (k + 1) * ws.length := by
  induction ws with
  | nil => exact absurd rfl some
  | cons w ws ih =>
    obtain ⟨own, rest⟩ := List.forall_mem_cons.1 short
    rw [List.length_cons, Nat.mul_succ]
    cases ws with
    | nil =>
      simp
      omega
    | cons next ws =>
      have later := ih (by simp) rest
      rw [intercalate_cons_cons, List.length_append, List.length_cons]
      omega

/-! ## IPv4 -/

/-- `inet_ntop(AF_INET, addr, ...)`. -/
def inetNtop4 (addr : List UInt8) : List UInt8 := [0x2e].intercalate (addr.map fun v => decimal v.toNat)

theorem octet_decimal (v : UInt8) : octet (decimal v.toNat) = some v := by
  have small : v.toNat ≤ 255 := by
    have := v.toNat_lt
    omega
  simp only [octet, digitsValue_decimal]
  rw [if_pos ⟨small, trivial⟩, UInt8.ofNat_toNat]

theorem notMem_decimal {x : UInt8} (other : isdigit x = false) (n : Nat) : x ∉ decimal n :=
  fun inside => digit_ne (decimal_digits n x inside) other rfl

theorem mapM_octet_decimal (addr : List UInt8) : (addr.map fun v => decimal v.toNat).mapM octet = some addr := by
  induction addr with
  | nil => rfl
  | cons v addr ih =>
    rw [List.map_cons, List.mapM_cons, octet_decimal, ih]
    rfl

/-- **An IPv4 address reads back.** -/
theorem inetPton4_inetNtop4 {addr : List UInt8} (four : addr.length = 4) : inetPton4 (inetNtop4 addr) = some addr := by
  have parts : (inetNtop4 addr).splitOn 0x2e = addr.map fun v => decimal v.toNat := by
    apply List.splitOn_intercalate
    · intro w inside
      obtain ⟨v, -, rfl⟩ := List.mem_map.1 inside
      exact notMem_decimal (by decide) _
    · rw [ne_eq, List.map_eq_nil_iff, ← List.length_eq_zero_iff]
      omega
  simp only [inetPton4, parts, List.length_map, four, if_true]
  exact mapM_octet_decimal addr

theorem notMem_inetNtop4 {x : UInt8} (other : isdigit x = false) (dot : x ≠ 0x2e) (addr : List UInt8) :
    x ∉ inetNtop4 addr := by
  intro inside
  rcases mem_intercalate inside with sign | ⟨w, group, letter⟩
  · exact dot sign
  · obtain ⟨v, -, rfl⟩ := List.mem_map.1 group
    exact notMem_decimal other _ letter

/-- Text without a `.` is no IPv4 address. -/
theorem inetPton4_undotted {s : List UInt8} (undotted : 0x2e ∉ s) : inetPton4 s = none := by
  have parts : s.splitOn 0x2e = [s] := by
    have whole : ([0x2e].intercalate [s]).splitOn 0x2e = [s] :=
      List.splitOn_intercalate _ (by simpa using undotted) (by simp)
    simpa [List.intercalate] using whole
  simp [inetPton4, parts]

/-! ## Groups -/

/-- The two bytes of a group. -/
def groupBytes (v : Nat) : List UInt8 := [UInt8.ofNat (v / 256), UInt8.ofNat (v % 256)]

/-- The groups of an IPv6 address. -/
def groups : List UInt8 → List Nat
  | a :: b :: rest => (256 * a.toNat + b.toNat) :: groups rest
  | _ => []

theorem groupBytes_group (a b : UInt8) : groupBytes (256 * a.toNat + b.toNat) = [a, b] := by
  have high : (256 * a.toNat + b.toNat) / 256 = a.toNat := by
    have := b.toNat_lt
    omega
  have low : (256 * a.toNat + b.toNat) % 256 = b.toNat := by
    have := b.toNat_lt
    omega
  rw [groupBytes, high, low, UInt8.ofNat_toNat, UInt8.ofNat_toNat]

theorem length_groups {n : Nat} {addr : List UInt8} (even : addr.length = 2 * n) : (groups addr).length = n := by
  induction n generalizing addr with
  | zero =>
    rw [List.length_eq_zero_iff.1 even]
    rfl
  | succ n ih =>
    rcases addr with _ | ⟨a, _ | ⟨b, rest⟩⟩
    · simp at even
    · simp at even
      omega
    · rw [groups, List.length_cons, ih (by simp at even; omega)]

theorem groups_bytes {n : Nat} {addr : List UInt8} (even : addr.length = 2 * n) :
    (groups addr).flatMap groupBytes = addr := by
  induction n generalizing addr with
  | zero =>
    rw [List.length_eq_zero_iff.1 even]
    rfl
  | succ n ih =>
    rcases addr with _ | ⟨a, _ | ⟨b, rest⟩⟩
    · simp at even
    · simp at even
      omega
    · rw [groups, List.flatMap_cons, groupBytes_group, ih (by simp at even; omega)]
      rfl

theorem groups_small (addr : List UInt8) : ∀ w ∈ groups addr, w < 65536 := by
  fun_induction groups addr with
  | case1 a b rest ih =>
    rw [List.forall_mem_cons]
    refine ⟨?_, ih⟩
    have := a.toNat_lt
    have := b.toNat_lt
    omega
  | case2 => simp

/-- Groups between colons. -/
def groupsText (ws : List Nat) : List UInt8 := [0x3a].intercalate (ws.map hexadecimal)

theorem mapM_hexGroup {ws : List Nat} (small : ∀ w ∈ ws, w < 65536) :
    (ws.map hexadecimal).mapM hexGroup = some (ws.map groupBytes) := by
  induction ws with
  | nil => rfl
  | cons w ws ih =>
    obtain ⟨own, rest⟩ := List.forall_mem_cons.1 small
    have read : hexGroup (hexadecimal w) = some (groupBytes w) := by
      have value := hexValue_hexadecimal w
      obtain ⟨digits, known, sum⟩ := Option.map_eq_some_iff.1 value
      have short : ¬ (hexadecimal w = [] ∨ 4 < (hexadecimal w).length) := by
        have := length_hexadecimal own
        simp only [hexadecimal_ne_nil, false_or]
        omega
      simp only [hexGroup, if_neg short, known]
      simp only [Option.pure_def, Option.bind_eq_bind, Option.bind_some, sum, groupBytes]
    rw [List.map_cons, List.mapM_cons, read, ih rest]
    rfl

/-- Groups read back, from text that is not empty. -/
theorem hexGroups_groupsText {ws : List Nat} (some : ws ≠ []) (small : ∀ w ∈ ws, w < 65536) :
    hexGroups (groupsText ws) = Option.some (ws.flatMap groupBytes) := by
  have parts : (groupsText ws).splitOn 0x3a = ws.map hexadecimal := by
    apply List.splitOn_intercalate
    · intro g inside
      obtain ⟨w, -, rfl⟩ := List.mem_map.1 inside
      exact notMem_hexadecimal (by decide) w
    · simpa using some
  rw [hexGroups, parts, mapM_hexGroup small, Option.map_some, List.flatMap_def]

/-! ## The run of zeros -/

/-- A run of zero groups: where it begins and how long it is. -/
structure ZeroRun where
  base : Nat
  len : Nat
  deriving DecidableEq

/-- The longer of two runs, and of equal ones the first. -/
def longerRun : Option ZeroRun → Option ZeroRun → Option ZeroRun
  | best, none => best
  | none, some cur => some cur
  | some best, some cur => if best.len < cur.len then some cur else some best

/-- The loop of `inet_ntop` over the groups, at group `i`. -/
def scanZeros (i : Nat) (best cur : Option ZeroRun) : List Nat → Option ZeroRun
  | [] => longerRun best cur
  | w :: ws =>
    if w = 0 then scanZeros (i + 1) best (some (cur.elim ⟨i, 1⟩ fun r => ⟨r.base, r.len + 1⟩)) ws
    else scanZeros (i + 1) (longerRun best cur) none ws

/-- The first longest run of two or more zero groups. -/
def zeroRun (ws : List Nat) : Option ZeroRun := (scanZeros 0 none none ws).filter fun r => 2 ≤ r.len

/-- The groups of a run are zero. -/
def ZeroRun.Spans (r : ZeroRun) (ws : List Nat) : Prop :=
  r.base + r.len ≤ ws.length ∧ (ws.drop r.base).take r.len = List.replicate r.len 0

theorem longerRun_spans {ws : List Nat} {best cur : Option ZeroRun} (first : ∀ r ∈ best, r.Spans ws)
    (second : ∀ r ∈ cur, r.Spans ws) : ∀ r ∈ longerRun best cur, r.Spans ws := by
  cases cur with
  | none => exact first
  | some c =>
    cases best with
    | none => exact second
    | some b =>
      simp only [longerRun]
      split
      · exact second
      · exact first

theorem ZeroRun.Spans.longer {r : ZeroRun} {before ws : List Nat} (spans : r.Spans before)
    (last : r.base + r.len = before.length) : (⟨r.base, r.len + 1⟩ : ZeroRun).Spans (before ++ 0 :: ws) := by
  obtain ⟨-, zeros⟩ := spans
  have whole : before.drop r.base = List.replicate r.len 0 := by
    rw [← zeros, List.take_of_length_le (by simp; omega)]
  refine ⟨by simp; omega, ?_⟩
  show ((before ++ 0 :: ws).drop r.base).take (r.len + 1) = List.replicate (r.len + 1) 0
  rw [List.drop_append_of_le_length (by omega), whole, List.replicate_succ',
    List.take_append, List.length_replicate, List.take_of_length_le (by simp)]
  simp

theorem scanZeros_spans {before ws : List Nat} {best cur : Option ZeroRun}
    (first : ∀ r ∈ best, r.Spans (before ++ ws))
    (second : ∀ r ∈ cur, r.Spans before ∧ r.base + r.len = before.length) :
    ∀ r ∈ scanZeros before.length best cur ws, r.Spans (before ++ ws) := by
  -- a run that ends here is one of the whole address
  have ended : ∀ r ∈ cur, r.Spans (before ++ ws) := by
    intro r inside
    obtain ⟨⟨fits, zeros⟩, last⟩ := second r inside
    refine ⟨by simp; omega, ?_⟩
    rw [List.drop_append_of_le_length (by omega), List.take_append_of_le_length (by simp; omega), zeros]
  induction ws generalizing before best cur with
  | nil =>
    intro r inside
    exact longerRun_spans first ended r inside
  | cons w ws ih =>
    have step : before ++ w :: ws = (before ++ [w]) ++ ws := by simp
    have length : before.length + 1 = (before ++ [w]).length := by simp
    rw [scanZeros]
    split
    · rename_i zero
      subst zero
      rw [step, length]
      have grown : ∀ r ∈ some (cur.elim (⟨before.length, 1⟩ : ZeroRun) fun r => ⟨r.base, r.len + 1⟩),
          r.Spans (before ++ [0]) ∧ r.base + r.len = (before ++ [0]).length := by
        intro r inside
        cases Option.some.inj inside
        cases cur with
        | none => exact ⟨⟨by simp, by simp⟩, by simp⟩
        | some c =>
          obtain ⟨spans, last⟩ := second c rfl
          exact ⟨spans.longer last, by simp only [Option.elim]; simp; omega⟩
      apply ih (step ▸ first) grown
      intro r inside
      obtain ⟨⟨fits, zeros⟩, last⟩ := grown r inside
      refine ⟨by simp at last ⊢; omega, ?_⟩
      rw [List.drop_append_of_le_length (by omega), List.take_append_of_le_length (by simp; simp at last; omega), zeros]
    · rw [step, length]
      apply ih
      · exact step ▸ longerRun_spans first ended
      · simp
      · simp

theorem zeroRun_spans {ws : List Nat} {r : ZeroRun} (found : zeroRun ws = some r) : 2 ≤ r.len ∧ r.Spans ws := by
  obtain ⟨scanned, long⟩ := Option.filter_eq_some_iff.1 found
  refine ⟨of_decide_eq_true long, ?_⟩
  exact @scanZeros_spans [] ws none none (by simp) (by simp) r scanned

/-- A run cuts the address in three. -/
theorem ZeroRun.Spans.cut {r : ZeroRun} {ws : List Nat} (spans : r.Spans ws) :
    ws.take r.base ++ List.replicate r.len 0 ++ ws.drop (r.base + r.len) = ws := by
  rw [← spans.2, List.append_assoc, ← List.drop_drop, List.take_append_drop, List.take_append_drop]

/-! ## IPv6 -/

/-- Whether the last two groups are written as an IPv4 address. -/
def encapsulated (ws : List Nat) (r : ZeroRun) : Bool :=
  r.base = 0 && (r.len = 6 || r.len = 5 && ws.getD 5 0 = 0xffff)

/-- The text behind the `::` of a run. -/
def textBehind (addr : List UInt8) (r : ZeroRun) : List UInt8 :=
  let ws := groups addr
  if encapsulated ws r then
    [0x3a].intercalate (((ws.take 6).drop (r.base + r.len)).map hexadecimal ++ [inetNtop4 (addr.drop 12)])
  else groupsText (ws.drop (r.base + r.len))

/-- `inet_ntop(AF_INET6, addr, ...)`. -/
def inetNtop6 (addr : List UInt8) : List UInt8 :=
  match zeroRun (groups addr) with
  | none => groupsText (groups addr)
  | some r => groupsText ((groups addr).take r.base) ++ [0x3a, 0x3a] ++ textBehind addr r

theorem splitDouble_plain {w t : List UInt8} (plain : 0x3a ∉ w) :
    splitDouble (w ++ t) = (splitDouble t).map fun p => (w ++ p.1, p.2) := by
  induction w with
  | nil => simp
  | cons c w ih =>
    obtain ⟨other, rest⟩ := not_or.1 (mt List.mem_cons.2 plain)
    rw [List.cons_append, splitDouble, if_neg (fun both => other both.1.symm), ih rest, Option.map_map]
    rfl

/-- No `::` stands in words between colons. -/
theorem splitDouble_words {ws : List (List UInt8)} (plain : ∀ w ∈ ws, w ≠ [] ∧ 0x3a ∉ w) (t : List UInt8) :
    splitDouble ([0x3a].intercalate ws ++ t) = (splitDouble t).map fun p => ([0x3a].intercalate ws ++ p.1, p.2) := by
  induction ws with
  | nil => simp [List.intercalate]
  | cons w ws ih =>
    obtain ⟨own, rest⟩ := List.forall_mem_cons.1 plain
    cases ws with
    | nil =>
      rw [List.intercalate_singleton]
      exact splitDouble_plain own.2
    | cons next ws =>
      have single : ([0x3a].intercalate (next :: ws) ++ t).head? ≠ some 0x3a := by
        obtain ⟨⟨filled, free⟩, -⟩ := List.forall_mem_cons.1 rest
        obtain ⟨c, next, rfl⟩ := List.exists_cons_of_ne_nil filled
        have first : ([0x3a].intercalate ((c :: next) :: ws) ++ t).head? = some c := by
          cases ws <;> simp [List.intercalate]
        rw [first]
        intro same
        exact free (by simp [Option.some.inj same])
      rw [intercalate_cons_cons, List.append_assoc, splitDouble_plain own.2, List.cons_append, splitDouble,
        if_neg (fun both => single both.2), ih rest, Option.map_map, Option.map_map]
      simp [Function.comp_def]

theorem hexadecimal_plain (ws : List Nat) : ∀ w ∈ ws.map hexadecimal, w ≠ [] ∧ 0x3a ∉ w := by
  intro w inside
  obtain ⟨v, -, rfl⟩ := List.mem_map.1 inside
  exact ⟨hexadecimal_ne_nil v, notMem_hexadecimal (by decide) v⟩

theorem length_flatMap_groupBytes (ws : List Nat) : (ws.flatMap groupBytes).length = 2 * ws.length := by
  induction ws with
  | nil => rfl
  | cons w ws ih =>
    rw [List.flatMap_cons, List.length_append, ih, List.length_cons, groupBytes]
    simp only [List.length_cons, List.length_nil]
    omega

theorem lastGroups_groupsText {ws : List Nat} (some : ws ≠ []) (small : ∀ w ∈ ws, w < 65536) :
    lastGroups (groupsText ws) = Option.some (ws.flatMap groupBytes) := by
  have parts : (groupsText ws).splitOn 0x3a = ws.map hexadecimal :=
    List.splitOn_intercalate _ (fun w inside => (hexadecimal_plain ws w inside).2) (by simpa using some)
  have undotted : 0x2e ∉ (ws.map hexadecimal).getLastD [] := by
    rw [List.getLastD_eq_getLast?, List.getLast?_map]
    cases ws.getLast? with
    | none => simp
    | some w => exact notMem_hexadecimal (by decide) w
  simp only [lastGroups, parts, inetPton4_undotted undotted]
  exact hexGroups_groupsText some small

theorem lastGroups_encapsulated {ws : List Nat} {addr : List UInt8} (small : ∀ w ∈ ws, w < 65536)
    (four : addr.length = 4) :
    lastGroups ([0x3a].intercalate (ws.map hexadecimal ++ [inetNtop4 addr])) =
      some (ws.flatMap groupBytes ++ addr) := by
  have parts : ([0x3a].intercalate (ws.map hexadecimal ++ [inetNtop4 addr])).splitOn 0x3a =
      ws.map hexadecimal ++ [inetNtop4 addr] := by
    apply List.splitOn_intercalate
    · intro w inside
      rcases List.mem_append.1 inside with group | last
      · exact (hexadecimal_plain ws w group).2
      · rw [List.mem_singleton.1 last]
        exact notMem_inetNtop4 (by decide) (by decide) addr
    · simp
  simp only [lastGroups, parts, List.getLastD_concat, List.dropLast_concat, inetPton4_inetNtop4 four,
    mapM_hexGroup small, Option.map_some, List.flatMap_def]

/-- The bytes around a run, filled up. -/
theorem fillGap_cut {r : ZeroRun} {addr : List UInt8} (whole : addr.length = 16) (long : 2 ≤ r.len)
    (spans : r.Spans (groups addr)) :
    fillGap (((groups addr).take r.base).flatMap groupBytes) (((groups addr).drop (r.base + r.len)).flatMap groupBytes) =
      some addr := by
  have eight : (groups addr).length = 8 := length_groups whole
  have fits := spans.1
  have front : (((groups addr).take r.base).flatMap groupBytes).length = 2 * r.base := by
    rw [length_flatMap_groupBytes, List.length_take]
    omega
  have back : (((groups addr).drop (r.base + r.len)).flatMap groupBytes).length = 16 - 2 * (r.base + r.len) := by
    rw [length_flatMap_groupBytes, List.length_drop]
    omega
  have gap : (List.replicate r.len 0).flatMap groupBytes = List.replicate (2 * r.len) 0 := by
    generalize r.len = n
    induction n with
    | zero => rfl
    | succ n ih =>
      rw [List.replicate_succ, List.flatMap_cons, ih]
      rfl
  have cut : ((groups addr).take r.base).flatMap groupBytes ++ List.replicate (2 * r.len) 0 ++
      ((groups addr).drop (r.base + r.len)).flatMap groupBytes = addr := by
    rw [← gap, ← List.flatMap_append, ← List.flatMap_append, spans.cut]
    exact @groups_bytes 8 addr whole
  have width : 16 - 2 * r.base - (16 - 2 * (r.base + r.len)) = 2 * r.len := by omega
  rw [fillGap, if_neg (by omega), front, back, width, cut]

/-- The groups behind a run, where the last two are written as an IPv4 address. -/
theorem encapsulated_bytes {r : ZeroRun} {addr : List UInt8} (whole : addr.length = 16)
    (mapped : encapsulated (groups addr) r = true) :
    (((groups addr).take 6).drop (r.base + r.len)).flatMap groupBytes ++ addr.drop 12 =
      ((groups addr).drop (r.base + r.len)).flatMap groupBytes := by
  have eight : (groups addr).length = 8 := length_groups whole
  have inside : r.base + r.len ≤ 6 := by
    simp only [encapsulated, Bool.and_eq_true, Bool.or_eq_true, decide_eq_true_eq] at mapped
    omega
  have last : addr.drop 12 = ((groups addr).drop 6).flatMap groupBytes := by
    have front : (((groups addr).take 6).flatMap groupBytes).length = 12 := by
      rw [length_flatMap_groupBytes, List.length_take]
      omega
    have parts : ((groups addr).take 6).flatMap groupBytes ++ ((groups addr).drop 6).flatMap groupBytes = addr := by
      rw [← List.flatMap_append, List.take_append_drop]
      exact @groups_bytes 8 addr whole
    calc addr.drop 12
      _ = (((groups addr).take 6).flatMap groupBytes ++ ((groups addr).drop 6).flatMap groupBytes).drop 12 := by rw [parts]
      _ = _ := List.drop_left' front
  rw [last, ← List.flatMap_append, ← List.drop_append_of_le_length (by rw [List.length_take]; omega),
    List.take_append_drop]

theorem groupsText_eq_nil {ws : List Nat} : groupsText ws = [] ↔ ws = [] := by
  cases ws with
  | nil => simp [groupsText]
  | cons w ws =>
    have filled := hexadecimal_ne_nil w
    cases ws <;> simp [groupsText, filled]

/-- Groups read back, from text that may be empty. -/
theorem read_groupsText {ws : List Nat} {read : List UInt8 → Option (List UInt8)}
    (reads : ws ≠ [] → read (groupsText ws) = some (ws.flatMap groupBytes)) :
    (if groupsText ws = [] then some [] else read (groupsText ws)) = some (ws.flatMap groupBytes) := by
  by_cases none : ws = []
  · subst none
    rfl
  · rw [if_neg (mt groupsText_eq_nil.1 none), reads none]

theorem read_textBehind {r : ZeroRun} {addr : List UInt8} (whole : addr.length = 16) :
    (if textBehind addr r = [] then some [] else lastGroups (textBehind addr r)) =
      some (((groups addr).drop (r.base + r.len)).flatMap groupBytes) := by
  have small := groups_small addr
  by_cases mapped : encapsulated (groups addr) r = true
  · have four : (addr.drop 12).length = 4 := by
      rw [List.length_drop, whole]
    have inner : ∀ w ∈ ((groups addr).take 6).drop (r.base + r.len), w < 65536 :=
      fun w inside => small w (List.mem_of_mem_take (List.mem_of_mem_drop inside))
    have read := lastGroups_encapsulated inner four
    rw [encapsulated_bytes whole mapped] at read
    simp only [textBehind, mapped, if_true, read]
    apply if_neg
    intro empty
    have unread : lastGroups [] = none := by decide
    rw [empty, unread] at read
    cases read
  · simp only [textBehind, mapped, if_false, Bool.false_eq_true]
    have later : ∀ w ∈ (groups addr).drop (r.base + r.len), w < 65536 :=
      fun w inside => small w (List.mem_of_mem_drop inside)
    exact read_groupsText fun filled => lastGroups_groupsText filled later

/-- **An IPv6 address reads back.** -/
theorem inetPton6_inetNtop6 {addr : List UInt8} (whole : addr.length = 16) : inetPton6 (inetNtop6 addr) = some addr := by
  have small := groups_small addr
  have eight : (groups addr).length = 8 := length_groups whole
  simp only [inetNtop6]
  split
  · have single : splitDouble (groupsText (groups addr)) = none := by
      simpa [splitDouble, groupsText] using splitDouble_words (hexadecimal_plain (groups addr)) []
    have filled : groups addr ≠ [] := List.ne_nil_of_length_eq_add_one eight
    have bytes : (groups addr).flatMap groupBytes = addr := @groups_bytes 8 addr whole
    simp only [inetPton6, single, lastGroups_groupsText filled small, bytes]
    simp [whole]
  · rename_i r found
    obtain ⟨long, spans⟩ := zeroRun_spans found
    have double : splitDouble (groupsText ((groups addr).take r.base) ++ [0x3a, 0x3a] ++ textBehind addr r) =
        some (groupsText ((groups addr).take r.base), textBehind addr r) := by
      rw [List.append_assoc, groupsText, splitDouble_words (hexadecimal_plain _)]
      simp [splitDouble]
    have before : ∀ w ∈ (groups addr).take r.base, w < 65536 :=
      fun w inside => small w (List.mem_of_mem_take inside)
    have front := read_groupsText fun filled => hexGroups_groupsText filled before
    simp only [inetPton6, double, front, read_textBehind whole, Option.bind_eq_bind, Option.bind_some]
    exact fillGap_cut whole long spans

theorem isdigit_of_hexDigit {x : UInt8} (other : hexDigit x = none) : isdigit x = false := by
  rw [← Bool.not_eq_true]
  intro digit
  simp [hexDigit, digit] at other

/-- The characters of an IPv6 address. -/
theorem notMem_inetNtop6 {x : UInt8} (other : hexDigit x = none) (colon : x ≠ 0x3a) (dot : x ≠ 0x2e)
    (addr : List UInt8) : x ∉ inetNtop6 addr := by
  have text : ∀ ws, x ∉ groupsText ws := by
    intro ws inside
    rcases mem_intercalate inside with sign | ⟨w, group, letter⟩
    · exact colon sign
    · obtain ⟨v, -, rfl⟩ := List.mem_map.1 group
      exact notMem_hexadecimal other v letter
  have behind : ∀ r, x ∉ textBehind addr r := by
    intro r inside
    simp only [textBehind] at inside
    split at inside
    · rcases mem_intercalate inside with sign | ⟨w, group, letter⟩
      · exact colon sign
      · rcases List.mem_append.1 group with group | last
        · obtain ⟨v, -, rfl⟩ := List.mem_map.1 group
          exact notMem_hexadecimal other v letter
        · rw [List.mem_singleton.1 last] at letter
          exact notMem_inetNtop4 (isdigit_of_hexDigit other) dot _ letter
    · exact text _ inside
  intro inside
  simp only [inetNtop6] at inside
  split at inside
  · exact text _ inside
  · rcases List.mem_append.1 inside with inside | inside
    · rcases List.mem_append.1 inside with inside | sign
      · exact text _ inside
      · exact colon (by simpa using sign)
    · exact behind _ inside

theorem inetNtop6_colon {addr : List UInt8} (whole : addr.length = 16) : 0x3a ∈ inetNtop6 addr := by
  have eight : (groups addr).length = 8 := length_groups whole
  simp only [inetNtop6]
  split
  · obtain ⟨v, rest, start⟩ := List.exists_cons_of_length_eq_add_one eight
    rw [start, List.length_cons] at eight
    obtain ⟨w, rest, rfl⟩ := List.exists_cons_of_length_eq_add_one (Nat.succ.inj eight)
    rw [start, groupsText, List.map_cons, List.map_cons, intercalate_cons_cons]
    simp
  · simp

/-- An IPv6 address is no IPv4 address. -/
theorem inetPton4_inetNtop6 {addr : List UInt8} (whole : addr.length = 16) : inetPton4 (inetNtop6 addr) = none := by
  rw [Option.eq_none_iff_forall_ne_some]
  intro four read
  have colon := inetNtop6_colon whole
  rw [inetPton4_spelling read] at colon
  exact notMem_inetNtop4 (by decide) (by decide) four colon

theorem length_inetNtop4 {addr : List UInt8} (four : addr.length = 4) : (inetNtop4 addr).length < 16 := by
  have short : ∀ w ∈ addr.map fun v => decimal v.toNat, w.length ≤ 3 := by
    intro w inside
    obtain ⟨v, -, rfl⟩ := List.mem_map.1 inside
    have small := v.toNat_lt
    rw [decimal, List.length_map, Nat.length_toDigits_le_iff (by decide) (by decide)]
    omega
  have some : (addr.map fun v => decimal v.toNat) ≠ [] := by
    rw [ne_eq, List.map_eq_nil_iff, ← List.length_eq_zero_iff]
    omega
  have bound := @length_intercalate_lt 0x2e _ 3 some short
  rw [List.length_map, four] at bound
  exact bound

theorem length_groupsText {ws : List Nat} (small : ∀ w ∈ ws, w < 65536) : (groupsText ws).length ≤ 5 * ws.length := by
  by_cases none : ws = []
  · simp [none, groupsText]
  · have short : ∀ g ∈ ws.map hexadecimal, g.length ≤ 4 := by
      intro g inside
      obtain ⟨w, own, rfl⟩ := List.mem_map.1 inside
      exact length_hexadecimal (small w own)
    have bound := @length_intercalate_lt 0x3a _ 4 (by simpa using none) short
    rw [List.length_map] at bound
    exact bound.le

theorem length_textBehind {r : ZeroRun} {addr : List UInt8} (whole : addr.length = 16) (long : 2 ≤ r.len)
    (fits : r.base + r.len ≤ (groups addr).length) : 5 * r.base + (textBehind addr r).length ≤ 38 := by
  have small := groups_small addr
  have eight : (groups addr).length = 8 := length_groups whole
  simp only [textBehind]
  split
  · rename_i mapped
    have four : (addr.drop 12).length = 4 := by
      rw [List.length_drop, whole]
    have short : ∀ g ∈ (((groups addr).take 6).drop (r.base + r.len)).map hexadecimal ++ [inetNtop4 (addr.drop 12)],
        g.length ≤ 15 := by
      intro g inside
      rcases List.mem_append.1 inside with group | last
      · obtain ⟨w, own, rfl⟩ := List.mem_map.1 group
        have := length_hexadecimal (small w (List.mem_of_mem_take (List.mem_of_mem_drop own)))
        omega
      · rw [List.mem_singleton.1 last]
        have := length_inetNtop4 four
        omega
    have bound := @length_intercalate_lt 0x3a _ 15 (by simp) short
    rw [List.length_append, List.length_map, List.length_drop, List.length_take, List.length_singleton] at bound
    simp only [encapsulated, Bool.and_eq_true, Bool.or_eq_true, decide_eq_true_eq] at mapped
    omega
  · have later : ∀ w ∈ (groups addr).drop (r.base + r.len), w < 65536 :=
      fun w inside => small w (List.mem_of_mem_drop inside)
    have back := length_groupsText later
    rw [List.length_drop] at back
    omega

theorem length_inetNtop6 {addr : List UInt8} (whole : addr.length = 16) : (inetNtop6 addr).length ≤ 40 := by
  have small := groups_small addr
  have eight : (groups addr).length = 8 := length_groups whole
  simp only [inetNtop6]
  split
  · have bound := length_groupsText small
    omega
  · rename_i r found
    obtain ⟨long, fits, -⟩ := zeroRun_spans found
    have before : ∀ w ∈ (groups addr).take r.base, w < 65536 :=
      fun w inside => small w (List.mem_of_mem_take inside)
    have front := length_groupsText before
    have behind := length_textBehind whole long fits
    rw [List.length_take] at front
    rw [List.length_append, List.length_append, List.length_cons, List.length_singleton]
    omega

end Lib
