import Tinyproxy.Lib.CString

/-!
# Addresses as text

`inet_pton` for the two address families, by the grammar that it documents: an IPv4
address is four decimal octets, none of them with leading zeros; an IPv6 address is
eight groups of up to four hexadecimal digits, where `::` stands for one or more
groups of zeros and the last two groups may be written as an IPv4 address. An IPv4
address has one spelling (`inetPton4_spelling`), an IPv6 address has many.
-/

namespace Lib

/-! ## IPv4 -/

/-- A number up to 255 in decimal, without leading zeros. -/
def octet (w : List UInt8) : Option UInt8 :=
  let v := digitsValue w
  if v ≤ 255 ∧ w = decimal v then some (UInt8.ofNat v) else none

/-- `inet_pton(AF_INET, s, dst)`. -/
def inetPton4 (s : List UInt8) : Option (List UInt8) :=
  let parts := s.splitOn 0x2e
  if parts.length = 4 then parts.mapM octet else none

/-- The spelling of an octet. -/
theorem octet_spelling {w : List UInt8} {v : UInt8} (read : octet w = some v) : w = decimal v.toNat := by
  simp only [octet] at read
  split at read
  · rename_i valid
    obtain ⟨small, spelled⟩ := valid
    have byte : digitsValue w < UInt8.size := by
      simp only [UInt8.size]
      omega
    have value : (UInt8.ofNat (digitsValue w)).toNat = digitsValue w := UInt8.toNat_ofNat_of_lt' byte
    cases read
    rw [value]
    exact spelled
  · cases read

theorem mapM_octet {parts : List (List UInt8)} {addr : List UInt8} (read : parts.mapM octet = some addr) :
    parts = addr.map fun v => decimal v.toNat := by
  induction parts generalizing addr with
  | nil =>
    cases read
    rfl
  | cons w parts ih =>
    simp only [List.mapM_cons, Option.bind_eq_bind, Option.bind_eq_some_iff, Option.pure_def, Option.some.injEq] at read
    obtain ⟨v, first, rest, later, rfl⟩ := read
    rw [List.map_cons, ← octet_spelling first, ← ih later]

/-- **An IPv4 address has one spelling.** -/
theorem inetPton4_spelling {s addr : List UInt8} (read : inetPton4 s = some addr) :
    s = [0x2e].intercalate (addr.map fun v => decimal v.toNat) := by
  simp only [inetPton4] at read
  split at read
  · rw [← mapM_octet read, List.intercalate_splitOn]
  · cases read

theorem length_inetPton4 {s addr : List UInt8} (read : inetPton4 s = some addr) : addr.length = 4 := by
  simp only [inetPton4] at read
  split at read
  · rename_i four
    rw [mapM_octet read, List.length_map] at four
    exact four
  · cases read

/-! ## IPv6 -/

/-- The value of a hexadecimal digit. -/
def hexDigit (c : UInt8) : Option Nat :=
  if isdigit c then some (c.toNat - 0x30) else
  if 0x61 ≤ c ∧ c ≤ 0x66 then some (c.toNat - 0x57) else
  if 0x41 ≤ c ∧ c ≤ 0x46 then some (c.toNat - 0x37) else none

/-- A group: one to four hexadecimal digits, as two bytes. -/
def hexGroup (w : List UInt8) : Option (List UInt8) := do
  if w = [] ∨ 4 < w.length then none
  let digits ← w.mapM hexDigit
  let v := digits.foldl (fun v d => 16 * v + d) 0
  return [UInt8.ofNat (v / 256), UInt8.ofNat (v % 256)]

/-- Groups between colons. -/
def hexGroups (s : List UInt8) : Option (List UInt8) := ((s.splitOn 0x3a).mapM hexGroup).map List.flatten

/-- Groups between colons at the end of an address, where an IPv4 address may be the last. -/
def lastGroups (s : List UInt8) : Option (List UInt8) :=
  let parts := s.splitOn 0x3a
  let last := parts.getLastD []
  match inetPton4 last with
  | some addr => (parts.dropLast.mapM hexGroup).map fun front => front.flatten ++ addr
  | none => hexGroups s

/-- What stands before and behind the first `::`. -/
def splitDouble : List UInt8 → Option (List UInt8 × List UInt8)
  | [] => none
  | c :: rest =>
    if c = 0x3a ∧ rest.head? = some 0x3a then some ([], rest.tail)
    else (splitDouble rest).map fun (front, back) => (c :: front, back)

/-- The bytes of groups around a gap, which is at least one group wide. -/
def fillGap (front back : List UInt8) : Option (List UInt8) :=
  if 14 < front.length + back.length then none
  else some (front ++ List.replicate (16 - front.length - back.length) 0 ++ back)

/-- `inet_pton(AF_INET6, s, dst)`. -/
def inetPton6 (s : List UInt8) : Option (List UInt8) :=
  match splitDouble s with
  | none => (lastGroups s).filter (·.length = 16)
  | some (front, back) => do
    let front ← (if front = [] then some [] else hexGroups front)
    let back ← (if back = [] then some [] else lastGroups back)
    fillGap front back

theorem length_inetPton6 {s addr : List UInt8} (read : inetPton6 s = some addr) : addr.length = 16 := by
  unfold inetPton6 at read
  split at read
  · simpa using (Option.filter_eq_some_iff.1 read).2
  · simp only [Option.bind_eq_bind, Option.bind_eq_some_iff] at read
    obtain ⟨front, -, back, -, read⟩ := read
    unfold fillGap at read
    split at read
    · cases read
    · cases read
      simp only [List.length_append, List.length_replicate]
      omega

end Lib
