import Tinyproxy.Stream.SniffVerdict

/-!
# Safety of the ClientHello parser

What the parser looks at and what it writes, for every buffer and every size of the
output. A byte is looked at when the parser gets stuck without it; all of them lie in
the buffer and, behind the record header, in the record. A name is written only when
it is returned, and fits.
-/

namespace Tinyproxy

open ClientHello (HostName NameByte)

/-! ## What is written -/

/-- A name goes with `PARSED`, and it is a host name that fits `outLen` bytes with its terminator. -/
structure SniResult.Written (outLen : Nat) (r : SniResult) : Prop where
  silent : r.status ≠ .parsed → r.copied = none
  named : r.status = .parsed → ∃ name, r.copied = some name ∧ HostName name ∧ name.length + 1 ≤ outLen

theorem sniOn_written (outLen : Nat) (b : Bytes) : (sniOn outLen b).Written outLen := by
  rcases unfinished_or_foreign_or_final b outLen with cut | foreign | final
  · rw [sniOn_unfinished cut]
    exact ⟨fun _ => rfl, fun parsed => absurd parsed (by decide)⟩
  · rw [sniOn_foreign foreign]
    exact ⟨fun _ => rfl, fun parsed => absurd parsed (by decide)⟩
  · exact ⟨final.silent, final.named⟩

/-- What the parser's `memcpy` and terminator leave in `out`. -/
def writeOut (out : Bytes) (r : SniResult) : Bytes :=
  match r.copied with
  | some name => Lib.putAt out 0 (name ++ [0])
  | none => out

theorem not_mem_hostName {name : Bytes} (host : HostName name) : 0 ∉ name := by
  intro mem
  have byte := host.2.2 0 mem
  revert byte
  unfold NameByte
  decide

/-! ## What is looked at -/

/-- The parser looks at byte `i` of `b`: it gets stuck without it. -/
def LooksAt (b : Bytes) (outLen i : Nat) : Prop :=
  parseSniFromClientHello (fun j => if j = i then none else b[j]?) b.length outLen = none

/-- The parser looks at nothing beyond what it needs. -/
theorem looksAt_lt {b : Bytes} {outLen i : Nat} (looks : LooksAt b outLen i) : i < readExtent b := by
  by_contra beyond
  have masked : parseSniFromClientHello (fun j => if j = i then none else b[j]?) b.length outLen =
      some (sniOn outLen b) := by
    apply parse_eq
    intro j below
    exact if_neg (by omega)
  rw [LooksAt, masked] at looks
  cases looks

/-- The record ends at `e`, by its header. -/
def RecordEndsAt (b : Bytes) (e : Nat) : Prop :=
  ∃ hi lo, b[3]? = some hi ∧ b[4]? = some lo ∧ e = 5 + Lib.be16 hi lo

theorem readExtent_le (b : Bytes) : readExtent b ≤ b.length := by
  unfold readExtent
  split
  · simp only [List.length_cons]
    split <;> omega
  · exact Nat.le_refl _

/-- Past the record header, what the parser needs is the record. -/
theorem readExtent_record {b : Bytes} (long : 5 < readExtent b) : RecordEndsAt b (readExtent b) := by
  match b with
  | [] => exact absurd long (by decide)
  | [_] => exact absurd long (by simp [readExtent])
  | [_, _] => exact absurd long (by simp [readExtent])
  | [_, _, _] => exact absurd long (by simp [readExtent])
  | [_, _, _, _] => exact absurd long (by simp [readExtent])
  | _ :: _ :: _ :: hi :: lo :: rest =>
    simp only [readExtent] at long ⊢
    split at long
    · omega
    · rename_i whole
      exact ⟨hi, lo, rfl, rfl, if_neg whole⟩

/-- **The ClientHello parser is safe.** `r` is what it returns on `b` with the output buffer `out`: every byte it looks
at is in the buffer, and behind the record header in a record that is there in full; it writes only with `PARSED`, and
then a name and its terminator that fit. -/
structure ParserSafe (b out : Bytes) (r : SniResult) : Prop where
  inBuffer : ∀ i, LooksAt b out.length i → i < b.length
  inRecord : ∀ i, LooksAt b out.length i → 5 ≤ i → ∃ e, RecordEndsAt b e ∧ i < e ∧ e ≤ b.length
  silent : r.status ≠ .parsed → writeOut out r = out
  named : r.status = .parsed → ∃ name, writeOut out r = name ++ 0 :: out.drop (name.length + 1) ∧
    name.length + 1 ≤ out.length ∧ 0 ∉ name

/-- **The parser stays in bounds and terminates**, on every buffer and with every output buffer: a result `some r` is
one of a run in which no `size_t` sum wrapped and both loops ended. -/
theorem parse_sni_safe (b out : Bytes) : ∃ r, sniOf b out.length = some r ∧ ParserSafe b out r := by
  have inside := readExtent_le b
  have written := sniOn_written out.length b
  refine ⟨sniOn out.length b, sniOf_eq b out.length, ?_, ?_, ?_, ?_⟩
  · intro i looks
    have below := looksAt_lt looks
    omega
  · intro i looks behind
    have below := looksAt_lt looks
    exact ⟨readExtent b, readExtent_record (by omega), below, inside⟩
  · intro other
    rw [writeOut, written.silent other]
  · intro named
    obtain ⟨name, copied, host, fits⟩ := written.named named
    refine ⟨name, ?_, fits, not_mem_hostName host⟩
    rw [writeOut, copied]
    simp [Lib.putAt]

/-! ## Verdicts and more data -/

theorem unfinished_iff {b : Bytes} :
    Unfinished b ↔ b = [] ∨ (b[0]? = some 0x16 ∧ b.length < 5) ∨
      ∃ v hi lo t, b = 0x16 :: 0x03 :: v :: hi :: lo :: t ∧ Lib.be16 hi lo ≠ 0 ∧ b.length < 5 + Lib.be16 hi lo := by
  constructor
  · intro cut
    cases cut with
    | empty => exact .inl rfl
    | short missing => exact .inr (.inl ⟨rfl, by rw [List.length_cons]; omega⟩)
    | @cut v hi lo t length missing =>
      exact .inr (.inr ⟨v, hi, lo, t, rfl, length, by simp only [List.length_cons]; omega⟩)
  · rintro (rfl | ⟨type, short⟩ | ⟨v, hi, lo, t, rfl, length, missing⟩)
    · exact .empty
    · match b, type with
      | x :: t, type =>
        cases type
        exact .short (by rw [List.length_cons] at short; omega)
    · exact .cut length (by simp only [List.length_cons] at missing; omega)

/-- **Verdicts are stable under more data**: any status but `NEED_MORE` is returned again, with the same name, however
the data goes on; and `NEED_MORE` is returned exactly on the empty string, on less than a record header that begins
with 0x16, and on less than the record a header `16 03` announces. -/
theorem parse_sni_stable (b : Bytes) (outLen : Nat) :
    ∃ r, sniOf b outLen = some r ∧ (r.status ≠ .needMore → ∀ s, sniOf (b ++ s) outLen = some r) ∧
      (r.status = .needMore ↔ b = [] ∨ (b[0]? = some 0x16 ∧ b.length < 5) ∨
        ∃ v hi lo t, b = 0x16 :: 0x03 :: v :: hi :: lo :: t ∧ Lib.be16 hi lo ≠ 0 ∧ b.length < 5 + Lib.be16 hi lo) := by
  refine ⟨sniOn outLen b, sniOf_eq b outLen, ?_, ?_⟩
  · intro final s
    rw [sniOf_eq, sniOn_append (fun cut => final (sniOn_needMore_iff.2 cut)) s]
  · rw [sniOn_needMore_iff, unfinished_iff]

end Tinyproxy
