import Tinyproxy.Stream.SniffGrammar

/-!
# The sniffer's verdict

What the parser answers on the buffers it has to tell apart: a record whose end has
not arrived (`Unfinished`), what is no ClientHello whatever follows (`Foreign`), and
everything else, which it decides for good. A verdict other than `NEED_MORE` survives
more data (`sniOn_append`).
-/

namespace Tinyproxy

open ClientHello (HostName NameByte)

/-! ## The results of a ClientHello -/

/-- A result of the ClientHello parser proper: final, not `NOT_TLS`, and with a name exactly when one was parsed,
which is a host name that fits `outLen` bytes with its terminator. -/
structure SniResult.Final (outLen : Nat) (r : SniResult) : Prop where
  terminal : r.status.terminal = true
  tls : r.status ≠ .notTls
  silent : r.status ≠ .parsed → r.copied = none
  named : r.status = .parsed → ∃ name, r.copied = some name ∧ HostName name ∧ name.length + 1 ≤ outLen

section Final

variable {outLen : Nat}

/-- A return without a name. -/
theorem final_unnamed {status : StreamSniffStatus}
    (final : (status.terminal && status != .notTls && status != .parsed) = true) :
    SniResult.Final outLen { status := status } := by
  simp only [Bool.and_eq_true, bne_iff_ne] at final
  exact ⟨final.1.1, final.1.2, fun _ => rfl, fun parsed => absurd parsed final.2⟩

theorem hostOn_final (name : Bytes) : (hostOn outLen name).Final outLen := by
  unfold hostOn
  split
  · exact final_unnamed rfl
  · rename_i short
    split
    · exact final_unnamed rfl
    · rename_i good
      split
      · exact final_unnamed rfl
      · rename_i room
        rw [not_or, Bool.not_eq_false, List.all_eq_true] at good
        simp only [streamSniMax] at short
        refine ⟨rfl, by simp, fun other => absurd rfl other, fun _ => ⟨name, rfl, ?_, by omega⟩⟩
        exact ⟨by omega, by omega, fun c mem => (nameByte_iff c).1 (good.2 c mem)⟩

theorem namesOn_final (l : Bytes) : (namesOn outLen l).Final outLen := by
  fun_induction namesOn outLen l with
  | case1 type hi lo rest long => exact final_unnamed rfl
  | case2 hi lo rest fits => exact hostOn_final _
  | case3 type hi lo rest fits kind ih => exact ih
  | case4 l short => exact final_unnamed rfl

theorem serverNameOn_final (value : Bytes) : (serverNameOn outLen value).Final outLen := by
  unfold serverNameOn
  split
  · split
    · exact namesOn_final _
    · exact final_unnamed rfl
  · exact final_unnamed rfl

theorem extensionsOn_final (e : Bytes) : (extensionsOn outLen e).Final outLen := by
  fun_induction extensionsOn outLen e with
  | case1 typeHi typeLo hi lo rest long => exact final_unnamed rfl
  | case2 typeHi typeLo hi lo rest fits kind => exact serverNameOn_final _
  | case3 typeHi typeLo hi lo rest fits kind ih => exact ih
  | case4 => exact final_unnamed rfl
  | case5 e short filled => exact final_unnamed rfl

theorem tailOn_final (tail : Bytes) : (tailOn outLen tail).Final outLen := by
  unfold tailOn
  split
  · exact final_unnamed rfl
  · split
    · exact extensionsOn_final _
    · exact final_unnamed rfl
  · exact final_unnamed rfl

theorem compressionOn_final (seg : Bytes) : (compressionOn outLen seg).Final outLen := by
  unfold compressionOn
  split
  · split
    · exact final_unnamed rfl
    · exact tailOn_final _
  · exact final_unnamed rfl

theorem suitesOn_final (seg : Bytes) : (suitesOn outLen seg).Final outLen := by
  unfold suitesOn
  split
  · split
    · exact final_unnamed rfl
    · exact compressionOn_final _
  · exact final_unnamed rfl

theorem bodyOn_final (body : Bytes) : (bodyOn outLen body).Final outLen := by
  unfold bodyOn sessionOn
  split
  · split
    · exact final_unnamed rfl
    · exact suitesOn_final _
  · exact final_unnamed rfl

end Final

/-! ## The record header -/

/-- The ways a byte string can begin, as the record layer of the parser tells them apart. -/
inductive RecordHead : Bytes → Prop where
  | empty : RecordHead []
  | other {x : UInt8} {t : Bytes} (type : x ≠ 0x16) : RecordHead (x :: t)
  | short {t : Bytes} (missing : t.length < 4) : RecordHead (0x16 :: t)
  | major {m v hi lo : UInt8} {t : Bytes} (version : m ≠ 0x03) : RecordHead (0x16 :: m :: v :: hi :: lo :: t)
  | zero {v hi lo : UInt8} {t : Bytes} (length : Lib.be16 hi lo = 0) :
      RecordHead (0x16 :: 0x03 :: v :: hi :: lo :: t)
  | cut {v hi lo : UInt8} {t : Bytes} (length : Lib.be16 hi lo ≠ 0) (missing : t.length < Lib.be16 hi lo) :
      RecordHead (0x16 :: 0x03 :: v :: hi :: lo :: t)
  | full {v hi lo : UInt8} {t : Bytes} (length : Lib.be16 hi lo ≠ 0) (present : Lib.be16 hi lo ≤ t.length) :
      RecordHead (0x16 :: 0x03 :: v :: hi :: lo :: t)

theorem recordHead (b : Bytes) : RecordHead b := by
  match b with
  | [] => exact .empty
  | x :: t =>
    by_cases type : x = 0x16
    · subst type
      match t with
      | [] => exact .short (by simp)
      | [_] => exact .short (by simp)
      | [_, _] => exact .short (by simp)
      | [_, _, _] => exact .short (by simp)
      | m :: v :: hi :: lo :: t =>
        by_cases version : m = 0x03
        · subst version
          by_cases length : Lib.be16 hi lo = 0
          · exact .zero length
          · by_cases missing : t.length < Lib.be16 hi lo
            · exact .cut length missing
            · exact .full length (by omega)
        · exact .major version
    · exact .other type

/-- What the parser sees of a TLS record whose end has not arrived. -/
inductive Unfinished : Bytes → Prop where
  | empty : Unfinished []
  | short {t : Bytes} (missing : t.length < 4) : Unfinished (0x16 :: t)
  | cut {v hi lo : UInt8} {t : Bytes} (length : Lib.be16 hi lo ≠ 0) (missing : t.length < Lib.be16 hi lo) :
      Unfinished (0x16 :: 0x03 :: v :: hi :: lo :: t)

/-- What is no ClientHello whatever follows: another content type, or a whole record of another handshake message. -/
inductive Foreign : Bytes → Prop where
  | other {x : UInt8} {t : Bytes} (type : x ≠ 0x16) : Foreign (x :: t)
  | message {v hi lo k : UInt8} {t : Bytes} (header : 4 ≤ Lib.be16 hi lo) (present : Lib.be16 hi lo ≤ t.length + 1)
      (type : k ≠ 0x01) : Foreign (0x16 :: 0x03 :: v :: hi :: lo :: k :: t)

theorem Foreign.not_unfinished {b : Bytes} (foreign : Foreign b) : ¬Unfinished b := by
  intro cut
  cases foreign with
  | other type =>
    cases cut with
    | short missing => exact type rfl
    | cut length missing => exact type rfl
  | message header present type =>
    cases cut with
    | short missing =>
      simp only [List.length_cons] at missing
      omega
    | cut length missing =>
      simp only [List.length_cons] at missing
      omega

section Record

variable {outLen : Nat}

theorem sniOn_foreign {b : Bytes} (foreign : Foreign b) : sniOn outLen b = { status := .notTls } := by
  cases foreign with
  | other type => rw [sniOn, if_pos type]
  | @message v hi lo k t header present type =>
    have length : Lib.be16 hi lo ≠ 0 := by omega
    have inside : ¬ (k :: t).length < Lib.be16 hi lo := by
      rw [List.length_cons]
      omega
    obtain ⟨a, b, c, d, rest, front⟩ := four_front (show 4 ≤ ((k :: t).take (Lib.be16 hi lo)).length by
      rw [List.length_take]
      omega)
    have same : k = a := by
      rw [← Nat.succ_pred length, List.take_succ_cons, List.cons.injEq] at front
      exact front.1
    rw [sniOn, if_neg (by simp), recordOn, if_neg (by simp), if_neg length, if_neg inside, front, handshakeOn,
      if_pos (same ▸ type)]

theorem sniOn_unfinished {b : Bytes} (cut : Unfinished b) : sniOn outLen b = { status := .needMore, needMore := true } := by
  cases cut with
  | empty => rfl
  | short missing => rw [sniOn, if_neg (by simp), recordOn_short missing]
  | cut length missing => rw [sniOn, if_neg (by simp), recordOn, if_neg (by simp), if_neg length, if_pos missing]

theorem handshakeOn_cases (record : Bytes) :
    (∃ k t, record = k :: t ∧ 4 ≤ record.length ∧ k ≠ 0x01) ∨ (handshakeOn outLen record).Final outLen := by
  unfold handshakeOn
  split
  · split
    · rename_i type hi mid lo rest other
      exact .inl ⟨type, _, rfl, by simp, other⟩
    · right
      split
      · exact final_unnamed rfl
      · exact bodyOn_final _
  · exact .inr (final_unnamed rfl)

/-- Every input is an unfinished record, no ClientHello at all, or one the parser decides. -/
theorem unfinished_or_foreign_or_final (b : Bytes) (outLen : Nat) :
    Unfinished b ∨ Foreign b ∨ (sniOn outLen b).Final outLen := by
  cases recordHead b with
  | empty => exact .inl .empty
  | other type => exact .inr (.inl (.other type))
  | short missing => exact .inl (.short missing)
  | major version =>
    right
    right
    rw [sniOn, if_neg (by simp), recordOn, if_pos version]
    exact final_unnamed rfl
  | zero length =>
    right
    right
    rw [sniOn, if_neg (by simp), recordOn, if_neg (by simp), if_pos length]
    exact final_unnamed rfl
  | cut length missing => exact .inl (.cut length missing)
  | @full v hi lo t length present =>
    right
    obtain ⟨k, t, rfl⟩ := List.exists_cons_of_ne_nil (show t ≠ [] by rintro rfl; exact length (Nat.le_zero.1 present))
    rw [sniOn, if_neg (by simp), recordOn, if_neg (by simp), if_neg length, if_neg (Nat.not_lt.2 present)]
    obtain ⟨k', t', front, long, other⟩ | final := @handshakeOn_cases outLen ((k :: t).take (Lib.be16 hi lo))
    · left
      have same : k = k' := by
        rw [← Nat.succ_pred length, List.take_succ_cons, List.cons.injEq] at front
        exact front.1
      rw [List.length_take] at long
      exact .message (by omega) present (same ▸ other)
    · exact .inr final

/-- The parser asks for more data exactly on unfinished records. -/
theorem sniOn_needMore_iff {b : Bytes} : (sniOn outLen b).status = .needMore ↔ Unfinished b := by
  constructor
  · intro more
    rcases unfinished_or_foreign_or_final b outLen with cut | foreign | final
    · exact cut
    · rw [sniOn_foreign foreign] at more
      cases more
    · have terminal := final.terminal
      rw [more] at terminal
      cases terminal
  · intro cut
    rw [sniOn_unfinished cut]

/-- **A verdict other than `NEED_MORE` is stable under more data.** -/
theorem sniOn_append {b : Bytes} (whole : ¬Unfinished b) (s : Bytes) : sniOn outLen (b ++ s) = sniOn outLen b := by
  cases recordHead b with
  | empty => exact absurd .empty whole
  | other type => rw [List.cons_append, sniOn, sniOn, if_pos type, if_pos type]
  | short missing => exact absurd (.short missing) whole
  | major version => simp [sniOn, recordOn, version]
  | zero length => simp [sniOn, recordOn, length]
  | cut length missing => exact absurd (.cut length missing) whole
  | @full v hi lo t length present =>
    have longer : ¬ (t ++ s).length < Lib.be16 hi lo := by
      rw [List.length_append]
      omega
    simp only [List.cons_append, sniOn, recordOn, length, longer, Nat.not_lt.2 present, if_false,
      List.take_append_of_le_length present]

end Record

/-! ## The verdict -/

/-- What the parser returns on `b`; the default is never used (`parseSni_total`). -/
def sniVerdict (b : Bytes) : SniResult := (parseSni b).getD { status := .notObserved }

theorem sniVerdict_eq (b : Bytes) : sniVerdict b = sniOn (streamSniMax + 1) b := by
  have parsed : parseSni b = some (sniOn (streamSniMax + 1) b) := sniOf_eq b (streamSniMax + 1)
  rw [sniVerdict, parsed, Option.getD_some]

/-- **The parser is total**: it never leaves its buffer, wraps or runs out of fuel. -/
theorem parseSni_total (b : Bytes) : parseSni b = some (sniVerdict b) := by
  rw [sniVerdict_eq]
  exact sniOf_eq b (streamSniMax + 1)

theorem verdict_unfinished {b : Bytes} (cut : Unfinished b) :
    sniVerdict b = { status := .needMore, needMore := true } := by
  rw [sniVerdict_eq, sniOn_unfinished cut]

theorem parseSni_unfinished {b : Bytes} (cut : Unfinished b) :
    parseSni b = some { status := .needMore, needMore := true } := by
  rw [parseSni_total, verdict_unfinished cut]

theorem verdict_foreign {b : Bytes} (foreign : Foreign b) : sniVerdict b = { status := .notTls } := by
  rw [sniVerdict_eq, sniOn_foreign foreign]

theorem verdict_terminal {b : Bytes} (whole : ¬Unfinished b) : (sniVerdict b).status.terminal = true := by
  rcases unfinished_or_foreign_or_final b (streamSniMax + 1) with cut | foreign | final
  · exact absurd cut whole
  · rw [verdict_foreign foreign]
    rfl
  · rw [sniVerdict_eq]
    exact final.terminal

/-- `NOT_TLS` is reported exactly on what is no ClientHello. -/
theorem verdict_notTls_iff {b : Bytes} : (sniVerdict b).status = .notTls ↔ Foreign b := by
  constructor
  · intro notTls
    rcases unfinished_or_foreign_or_final b (streamSniMax + 1) with cut | foreign | final
    · rw [verdict_unfinished cut] at notTls
      cases notTls
    · exact foreign
    · rw [sniVerdict_eq] at notTls
      exact absurd notTls final.tls
  · intro foreign
    rw [verdict_foreign foreign]

theorem verdict_stable {b s : Bytes} (whole : ¬Unfinished b) : sniVerdict (b ++ s) = sniVerdict b := by
  rw [sniVerdict_eq, sniVerdict_eq, sniOn_append whole]

end Tinyproxy
