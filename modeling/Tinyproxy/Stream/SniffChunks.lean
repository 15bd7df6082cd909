import Tinyproxy.Stream.SniffVerdict

/-!
# Sniffing chunk by chunk

`pipe_client_read_cb` shows the sniffer one chunk and then moves that chunk away, so
after a `NEED_MORE` the next chunk is parsed from its own first byte. `Restart` lists
the offsets of a byte string at which that can happen, and `SegmentationSafe` the byte
strings on which it makes no difference: those that are no ClientHello from any such
offset, and up to four bytes that never get past the first byte of a record.
-/

namespace Tinyproxy

/-- What a log line shows of a sniff state. -/
def StreamSniff.report (s : StreamSniff) : StreamSniffStatus × Bytes := (s.status, s.sni)

/-- The sniff state after the chunks of successive read callbacks. -/
def sniffChunks (s : StreamSniff) (chunks : List Bytes) : StreamSniff :=
  chunks.foldl streamSniffPeekClientInput s

/-! ## One chunk -/

section Peek

variable {s : StreamSniff} {chunk : Bytes}

theorem peek_done (done : s.done = true) : streamSniffPeekClientInput s chunk = s := by
  rw [streamSniffPeekClientInput, if_pos done]

theorem sniffChunks_done (done : s.done = true) (chunks : List Bytes) : sniffChunks s chunks = s := by
  induction chunks with
  | nil => rfl
  | cons chunk chunks ih =>
    unfold sniffChunks at *
    rw [List.foldl_cons, peek_done done, ih]

variable (undone : s.done = false) (some : chunk ≠ [])
include undone some

/-- A chunk that ends inside a record leaves the sniffer waiting. -/
theorem peek_unfinished (cut : Unfinished chunk) (short : chunk.length < streamSniffMax) :
    streamSniffPeekClientInput s chunk = { s with observed := chunk.length, status := .needMore } := by
  have all : chunk.take streamSniffMax = chunk := List.take_of_length_le (Nat.le_of_lt short)
  simp [streamSniffPeekClientInput, undone, some, all, parseSni_unfinished cut, Nat.not_le.2 short]

/-- A whole buffer that ends inside a record is given up on. -/
theorem peek_truncated (cut : Unfinished (chunk.take streamSniffMax)) (long : streamSniffMax ≤ chunk.length) :
    (streamSniffPeekClientInput s chunk).status = .truncated ∧ (streamSniffPeekClientInput s chunk).done = true := by
  simp [streamSniffPeekClientInput, undone, some, parseSni_unfinished cut, long]

/-- A chunk that is no ClientHello ends the sniffing. -/
theorem peek_foreign (foreign : sniVerdict (chunk.take streamSniffMax) = { status := .notTls }) :
    (streamSniffPeekClientInput s chunk).report = (.notTls, s.sni) ∧
      (streamSniffPeekClientInput s chunk).done = true := by
  have parsed := parseSni_total (chunk.take streamSniffMax)
  rw [foreign] at parsed
  simp [streamSniffPeekClientInput, StreamSniff.report, undone, some, parsed, StreamSniffStatus.terminal]

/-- A chunk with a verdict of its own ends the sniffing with it. -/
theorem peek_decided (whole : ¬Unfinished (chunk.take streamSniffMax)) :
    (streamSniffPeekClientInput s chunk).status = (sniVerdict (chunk.take streamSniffMax)).status ∧
      (streamSniffPeekClientInput s chunk).done = true := by
  have parsed := parseSni_total (chunk.take streamSniffMax)
  have final := verdict_terminal whole
  have more : (sniVerdict (chunk.take streamSniffMax)).status ≠ .needMore := by
    intro more
    rw [more] at final
    cases final
  simp [streamSniffPeekClientInput, undone, some, parsed, more, final]

end Peek

/-! ## Restarts -/

/-- The offsets of `b` at which the sniffer can start on a chunk without a verdict so far. -/
inductive Restart (b : Bytes) : Nat → Prop where
  | start : Restart b 0
  | again {p q : Nat} (before : Restart b p) (further : p < q) (inside : q ≤ b.length)
      (short : q - p < streamSniffMax) (cut : Unfinished ((b.drop p).take (q - p))) : Restart b q

/-- The byte strings whose sniff result does not depend on how they are cut. -/
def SegmentationSafe (b : Bytes) : Prop :=
  (b.length ≤ 4 ∧ ∀ x ∈ b, x = 0x16) ∨ ∀ p, Restart b p → Foreign ((b.drop p).take streamSniffMax)

/-- Up to four record-type bytes are an unfinished record. -/
theorem Unfinished.of_types {b : Bytes} (short : b.length ≤ 4) (types : ∀ x ∈ b, x = 0x16) : Unfinished b := by
  match b with
  | [] => exact .empty
  | x :: t =>
    rw [types x List.mem_cons_self]
    apply Unfinished.short
    rw [List.length_cons] at short
    omega

/-- No more than four are. -/
theorem Unfinished.types_length {b : Bytes} (cut : Unfinished b) (types : ∀ x ∈ b, x = 0x16) : b.length ≤ 4 := by
  cases cut with
  | empty => exact Nat.zero_le 4
  | short missing =>
    rw [List.length_cons]
    omega
  | cut length missing =>
    have major := types 0x03 (List.mem_cons_of_mem _ List.mem_cons_self)
    cases major

/-- Chunks of such bytes never lead to a verdict. -/
theorem sniffChunks_types {s : StreamSniff} (undone : s.done = false) {chunks : List Bytes}
    (filled : ∀ chunk ∈ chunks, chunk ≠ []) (short : chunks.flatten.length ≤ 4)
    (types : ∀ x ∈ chunks.flatten, x = 0x16) :
    (sniffChunks s chunks).report = if chunks = [] then s.report else (.needMore, s.sni) := by
  induction chunks generalizing s with
  | nil => rfl
  | cons chunk chunks ih =>
    rw [List.flatten_cons, List.length_append] at short
    simp only [List.flatten_cons, List.mem_append] at types
    have cut : Unfinished chunk := .of_types (by omega) fun x mem => types x (.inl mem)
    have small : chunk.length < streamSniffMax := by
      have four : 4 < streamSniffMax := by decide
      omega
    have first := peek_unfinished undone (filled chunk List.mem_cons_self) cut small
    have rest := ih (s := streamSniffPeekClientInput s chunk) (by rw [first, undone])
      (fun c mem => filled c (List.mem_cons_of_mem chunk mem)) (by omega) fun x mem => types x (.inr mem)
    show (sniffChunks (streamSniffPeekClientInput s chunk) chunks).report = _
    rw [rest, first, if_neg (List.cons_ne_nil _ _)]
    by_cases last : chunks = []
    · rw [if_pos last]
      rfl
    · rw [if_neg last]

/-- From every restart offset of a string that is nowhere a ClientHello, the rest is `NOT_TLS`. -/
theorem sniffChunks_foreign {b : Bytes} (foreign : ∀ p, Restart b p → Foreign ((b.drop p).take streamSniffMax))
    {s : StreamSniff} (undone : s.done = false) {chunks : List Bytes} (filled : ∀ chunk ∈ chunks, chunk ≠ [])
    {p : Nat} (reached : Restart b p) (rest : b.drop p = chunks.flatten) :
    (sniffChunks s chunks).report = (.notTls, s.sni) := by
  induction chunks generalizing s p with
  | nil =>
    have window := foreign p reached
    rw [rest] at window
    cases window
  | cons chunk chunks ih =>
    have window := foreign p reached
    rw [rest, List.flatten_cons] at window
    have nonempty := filled chunk List.mem_cons_self
    show (sniffChunks (streamSniffPeekClientInput s chunk) chunks).report = _
    by_cases cut : Unfinished (chunk.take streamSniffMax)
    · by_cases short : chunk.length < streamSniffMax
      · -- the chunk ends inside a record: the next one is parsed from its own first byte
        rw [List.take_of_length_le (Nat.le_of_lt short)] at cut
        have first := peek_unfinished undone nonempty cut short
        have some : 0 < chunk.length := List.length_pos_iff.2 nonempty
        have again : Restart b (p + chunk.length) := by
          apply Restart.again reached (by omega)
          · have length := congrArg List.length rest
            rw [List.length_drop, List.flatten_cons, List.length_append] at length
            omega
          · omega
          · rw [Nat.add_sub_cancel_left, rest, List.flatten_cons, List.take_left]
            exact cut
        have behind : b.drop (p + chunk.length) = chunks.flatten := by
          rw [← List.drop_drop, rest, List.flatten_cons, List.drop_left]
        have tail := ih (s := streamSniffPeekClientInput s chunk) (by rw [first, undone])
          (fun c mem => filled c (List.mem_cons_of_mem chunk mem)) again behind
        rw [tail, first]
      · -- a chunk this long is all the parser would have seen anyway
        have window' : (chunk ++ chunks.flatten).take streamSniffMax = chunk.take streamSniffMax :=
          List.take_append_of_le_length (Nat.not_lt.1 short)
        rw [window'] at window
        exact absurd cut window.not_unfinished
    · have more : (chunk ++ chunks.flatten).take streamSniffMax =
          chunk.take streamSniffMax ++ chunks.flatten.take (streamSniffMax - chunk.length) := List.take_append
      rw [more] at window
      have verdict := verdict_stable (s := chunks.flatten.take (streamSniffMax - chunk.length)) cut
      rw [verdict_foreign window] at verdict
      have first := peek_foreign undone nonempty verdict.symm
      rw [sniffChunks_done first.2, first.1]

/-- **Safe strings can be cut anywhere.** -/
theorem SegmentationSafe.report_eq {b : Bytes} (safe : SegmentationSafe b) {chunks : List Bytes}
    (filled : ∀ chunk ∈ chunks, chunk ≠ []) (whole : chunks.flatten = b) :
    (sniffChunks {} chunks).report = (streamSniffPeekClientInput {} (b.take streamSniffMax)).report := by
  rcases safe with ⟨short, types⟩ | foreign
  · have all : b.take streamSniffMax = b := by
      apply List.take_of_length_le
      exact Nat.le_trans short (by decide)
    rw [all]
    subst whole
    rw [sniffChunks_types rfl filled short types]
    by_cases none : chunks = []
    · subst none
      rfl
    · obtain ⟨chunk, rest, rfl⟩ := List.exists_cons_of_ne_nil none
      have some : (chunk :: rest).flatten ≠ [] := by
        rw [List.flatten_cons]
        exact List.append_ne_nil_of_left_ne_nil (filled chunk List.mem_cons_self) _
      have cut := Unfinished.of_types short types
      rw [if_neg none, peek_unfinished rfl some cut (Nat.lt_of_le_of_lt short (by decide))]
      rfl
  · have window := foreign 0 .start
    rw [List.drop_zero] at window
    have some : b.take streamSniffMax ≠ [] := by
      intro none
      rw [none] at window
      cases window
    have verdict : sniVerdict ((b.take streamSniffMax).take streamSniffMax) = { status := .notTls } := by
      rw [List.take_take, Nat.min_self]
      exact verdict_foreign window
    rw [sniffChunks_foreign foreign rfl filled .start (List.drop_zero.trans whole.symm),
      (peek_foreign rfl some verdict).1]

/-! ## Cuts that make a difference -/

theorem sniffChunks_append (s : StreamSniff) (before after : List Bytes) :
    sniffChunks s (before ++ after) = sniffChunks (sniffChunks s before) after := List.foldl_append

/-- The chunks of a client that sends byte by byte. -/
def singles (b : Bytes) : List Bytes := b.map fun x => [x]

theorem flatten_singles (b : Bytes) : (singles b).flatten = b := by
  induction b with
  | nil => rfl
  | cons x b ih =>
    show [x] ++ (singles b).flatten = x :: b
    rw [ih]
    rfl

theorem singles_short {b c : Bytes} (mem : c ∈ singles b) : c ≠ [] ∧ c.length ≤ streamSniffMax := by
  obtain ⟨x, -, rfl⟩ := List.mem_map.1 mem
  refine ⟨List.cons_ne_nil _ _, ?_⟩
  rw [List.length_singleton]
  decide

/-- Byte by byte, the first byte that is no record type decides. -/
theorem sniffChunks_singles {s : StreamSniff} (undone : s.done = false) (b : Bytes) :
    (sniffChunks s (singles b)).status =
      if ∃ x ∈ b, x ≠ 0x16 then .notTls else if b = [] then s.status else .needMore := by
  induction b generalizing s with
  | nil => simp [sniffChunks, singles]
  | cons x b ih =>
    show (sniffChunks (streamSniffPeekClientInput s [x]) (singles b)).status = _
    by_cases type : x = 0x16
    · subst type
      have first := peek_unfinished undone (List.cons_ne_nil (0x16 : UInt8) []) (.short (by decide)) (by decide)
      rw [ih (by rw [first, undone]), first]
      simp
    · have verdict : sniVerdict ([x].take streamSniffMax) = { status := .notTls } := verdict_foreign (.other type)
      have first := peek_foreign undone (List.cons_ne_nil x []) verdict
      rw [sniffChunks_done first.2, if_pos ⟨x, List.mem_cons_self, type⟩]
      exact congrArg Prod.fst first.1

/-- Some way of cutting the string gets the sniffer to each restart offset without a verdict. -/
theorem Restart.reached {b : Bytes} {p : Nat} (restart : Restart b p) :
    p ≤ b.length ∧ ∃ chunks : List Bytes, (∀ c ∈ chunks, c ≠ [] ∧ c.length ≤ streamSniffMax) ∧
      chunks.flatten = b.take p ∧ (sniffChunks {} chunks).done = false ∧
      (0 < p → (sniffChunks {} chunks).status = .needMore) := by
  induction restart with
  | start =>
    refine ⟨Nat.zero_le _, [], ?_, rfl, rfl, fun none => absurd none (Nat.lt_irrefl 0)⟩
    intro c mem
    cases mem
  | @again p q before further inside short cut ih =>
    obtain ⟨-, chunks, small, flat, undone, -⟩ := ih
    have length : ((b.drop p).take (q - p)).length = q - p := by
      rw [List.length_take, List.length_drop]
      omega
    have some : (b.drop p).take (q - p) ≠ [] := by
      apply List.ne_nil_of_length_pos
      omega
    have last := peek_unfinished undone some cut (by omega)
    have ends : sniffChunks {} (chunks ++ [(b.drop p).take (q - p)]) =
        streamSniffPeekClientInput (sniffChunks {} chunks) ((b.drop p).take (q - p)) := sniffChunks_append _ _ _
    refine ⟨inside, chunks ++ [(b.drop p).take (q - p)], ?_, ?_, ?_, ?_⟩
    · intro c mem
      rcases List.mem_append.1 mem with earlier | final
      · exact small c earlier
      · rw [List.mem_singleton.1 final]
        exact ⟨some, by omega⟩
    · rw [List.flatten_append, flat, List.flatten_cons, List.flatten_nil, List.append_nil]
      calc b.take p ++ (b.drop p).take (q - p)
          = b.take (p + (q - p)) := (List.take_add).symm
        _ = b.take q := by rw [Nat.add_sub_cancel' (Nat.le_of_lt further)]
    · rw [ends, last]
      exact undone
    · intro _
      rw [ends, last]

/-- Read at a restart offset, the rest of the string has the verdict the whole run ends with. -/
theorem Restart.window_status {b : Bytes} {p : Nat} (restart : Restart b p) {status : StreamSniffStatus}
    (final : status.terminal = true ∧ status ≠ .truncated)
    (same : ∀ chunks : List Bytes, (∀ c ∈ chunks, c ≠ [] ∧ c.length ≤ streamSniffMax) → chunks.flatten = b →
      (sniffChunks {} chunks).status = status) (nonempty : b ≠ []) :
    (sniVerdict ((b.drop p).take streamSniffMax)).status = status := by
  obtain ⟨inside, chunks, small, flat, undone, waiting⟩ := restart.reached
  have length : ((b.drop p).take streamSniffMax).length = min streamSniffMax (b.length - p) := by
    rw [List.length_take, List.length_drop]
  have some : (b.drop p).take streamSniffMax ≠ [] := by
    -- otherwise the run is over and still waiting
    intro none
    rw [none, List.length_nil] at length
    have size : 0 < streamSniffMax := by decide
    have atEnd : p = b.length := by omega
    have positive : 0 < b.length := List.length_pos_iff.2 nonempty
    have ended := same chunks small (by rw [flat, atEnd, List.take_length])
    rw [waiting (by omega)] at ended
    rw [← ended] at final
    cases final.1
  have cut := same (chunks ++ (b.drop p).take streamSniffMax :: singles (b.drop (p + streamSniffMax))) ?_ ?_
  · rw [sniffChunks_append] at cut
    change (sniffChunks (streamSniffPeekClientInput (sniffChunks {} chunks) ((b.drop p).take streamSniffMax))
      (singles (b.drop (p + streamSniffMax)))).status = status at cut
    have window : ((b.drop p).take streamSniffMax).take streamSniffMax = (b.drop p).take streamSniffMax := by
      rw [List.take_take, Nat.min_self]
    by_cases unfinished : Unfinished ((b.drop p).take streamSniffMax)
    · by_cases short : ((b.drop p).take streamSniffMax).length < streamSniffMax
      · have rest : b.drop (p + streamSniffMax) = [] := List.drop_eq_nil_of_le (by omega)
        rw [rest, peek_unfinished undone some unfinished short] at cut
        rw [← cut] at final
        cases final.1
      · rw [← window] at unfinished
        have given := peek_truncated undone some unfinished (Nat.not_lt.1 short)
        rw [sniffChunks_done given.2, given.1] at cut
        exact absurd cut.symm final.2
    · rw [← window] at unfinished
      have decided := peek_decided undone some unfinished
      rw [sniffChunks_done decided.2, decided.1, window] at cut
      exact cut
  · intro c mem
    rcases List.mem_append.1 mem with earlier | later
    · exact small c earlier
    · rcases List.mem_cons.1 later with rfl | byte
      · exact ⟨some, by omega⟩
      · exact singles_short byte
  · rw [List.flatten_append, flat, List.flatten_cons, flatten_singles, ← List.drop_drop, List.take_append_drop,
      List.take_append_drop]

/-- **Every other string can be cut so that the result changes**, with chunks no longer than the sniff buffer. -/
theorem SegmentationSafe.of_report_eq {b : Bytes}
    (same : ∀ chunks : List Bytes, (∀ c ∈ chunks, c ≠ [] ∧ c.length ≤ streamSniffMax) → chunks.flatten = b →
      (sniffChunks {} chunks).report = (streamSniffPeekClientInput {} (b.take streamSniffMax)).report) :
    SegmentationSafe b := by
  have bytewise := congrArg Prod.fst (same (singles b) (fun c => singles_short) (flatten_singles b))
  change (sniffChunks {} (singles b)).status = (streamSniffPeekClientInput {} (b.take streamSniffMax)).status at bytewise
  rw [sniffChunks_singles rfl] at bytewise
  by_cases foreign : ∃ x ∈ b, x ≠ 0x16
  · -- byte by byte the string is `NOT_TLS`, so every cut has to find that
    right
    intro p restart
    rw [if_pos foreign] at bytewise
    have nonempty : b ≠ [] := by
      rintro rfl
      obtain ⟨x, mem, -⟩ := foreign
      cases mem
    apply verdict_notTls_iff.1
    apply restart.window_status ⟨rfl, by decide⟩ _ nonempty
    intro chunks small flat
    rw [bytewise]
    exact congrArg Prod.fst (same chunks small flat)
  · -- byte by byte it is never decided, so it must not be when read at once
    left
    have types : ∀ x ∈ b, x = 0x16 := by
      intro x mem
      by_contra other
      exact foreign ⟨x, mem, other⟩
    refine ⟨?_, types⟩
    rw [if_neg foreign] at bytewise
    by_cases none : b = []
    · rw [none]
      exact Nat.zero_le 4
    · rw [if_neg none] at bytewise
      by_contra long
      have size : 4 < streamSniffMax := by decide
      have window : (b.take streamSniffMax).take streamSniffMax = b.take streamSniffMax := by
        rw [List.take_take, Nat.min_self]
      have whole : ¬Unfinished ((b.take streamSniffMax).take streamSniffMax) := by
        rw [window]
        intro cut
        have short := cut.types_length fun x mem => types x (List.mem_of_mem_take mem)
        rw [List.length_take] at short
        omega
      have some : b.take streamSniffMax ≠ [] := by
        intro empty
        rw [empty] at whole
        exact whole .empty
      have final := verdict_terminal whole
      rw [← (peek_decided (s := {}) rfl some whole).1, ← bytewise] at final
      cases final

end Tinyproxy
