import Tinyproxy.Lib.CString
import Tinyproxy.Stream.SniffChunks
import Tinyproxy.Stream.SniffSafety

/-!
# The state of a sniffer and its log line

`struct stream_sniff` over any number of calls of `stream_sniff_peek_client_input`,
whatever the client's input buffer holds at each of them, and what
`stream_sniff_log_sni` shows of it. `PeekStep` lists everything a call can do.
-/

namespace Tinyproxy

open Lib (ascii cstr)
open ClientHello (HostName NameByte)

/-- What `stream_sniff_log_sni` returns for a status without a name. -/
def StreamSniffStatus.logTag : StreamSniffStatus → Bytes
  | .notObserved => ascii "<not_observed>"
  | .needMore => ascii "<need_more>"
  | .missing => ascii "<missing>"
  | .notTls => ascii "<not_tls>"
  | .truncated => ascii "<truncated>"
  | .nameTooLong => ascii "<name_too_long>"
  | .parseError => ascii "<parse_error>"
  | .parsed => ascii "<empty>"

/-- `stream_sniff_log_sni`, of a null pointer or of a sniffer. -/
def streamSniffLogSni : Option StreamSniff → Bytes
  | none => StreamSniffStatus.logTag .notObserved
  | some s => if s.status = .parsed ∧ s.sni.getD 0 0 ≠ 0 then cstr s.sni else s.status.logTag

/-- One of the fixed tags. -/
def IsLogTag (line : Bytes) : Prop := ∃ status : StreamSniffStatus, line = status.logTag

/-! ## What a call can do -/

/-- Everything `stream_sniff_peek_client_input` can do to a sniffer. -/
inductive PeekStep (s : StreamSniff) : StreamSniff → Prop where
  /-- The sniffer is done, or the buffer is empty. -/
  | nothing : PeekStep s s
  /-- The record goes on behind what is there. -/
  | waits {n : Nat} (undone : s.done = false) (bound : n ≤ streamSniffMax) :
      PeekStep s { s with observed := n, status := .needMore }
  /-- It goes on behind what the sniffer looks at. -/
  | givesUp {n : Nat} (undone : s.done = false) (bound : n ≤ streamSniffMax) :
      PeekStep s { s with observed := n, status := .truncated, done := true }
  /-- The parser has a verdict. -/
  | ends {n : Nat} {r : SniResult} (undone : s.done = false) (bound : n ≤ streamSniffMax)
      (terminal : r.status.terminal = true) (written : r.Written (streamSniMax + 1)) :
      PeekStep s { s with observed := n, sni := writeOut s.sni r, status := r.status, done := true }

theorem peek_step (s : StreamSniff) (input : Bytes) : PeekStep s (streamSniffPeekClientInput s input) := by
  by_cases done : s.done = true
  · rw [peek_done done]
    exact .nothing
  have undone : s.done = false := eq_false_of_ne_true done
  by_cases empty : input.length = 0
  · rw [streamSniffPeekClientInput, if_neg done, if_pos empty]
    exact .nothing
  have bound : (input.take streamSniffMax).length ≤ streamSniffMax := List.length_take_le _ _
  have parsed := parseSni_total (input.take streamSniffMax)
  unfold streamSniffPeekClientInput
  rw [if_neg done, if_neg empty]
  by_cases cut : Unfinished (input.take streamSniffMax)
  · simp only [parseSni_unfinished cut, and_self, if_true]
    split
    · exact .givesUp undone bound
    · exact .waits undone bound
  · have terminal := verdict_terminal cut
    have final : (sniVerdict (input.take streamSniffMax)).status ≠ .needMore := by
      intro more
      rw [more] at terminal
      cases terminal
    simp only [parsed, final, false_and, if_false, terminal]
    refine .ends undone bound terminal ?_
    rw [sniVerdict_eq]
    exact sniOn_written _ _

/-! ## The invariant -/

/-- A sniffer between calls: its name is a C string inside its array, a host name when one was parsed and empty
otherwise, and it is done exactly with a final status. -/
structure SniffSound (s : StreamSniff) : Prop where
  observed : s.observed ≤ streamSniffMax
  size : s.sni.length = streamSniMax + 1
  terminated : 0 ∈ s.sni
  hostName : s.status = .parsed → HostName (cstr s.sni)
  blank : s.status ≠ .parsed → cstr s.sni = []
  finished : s.done = s.status.terminal

theorem cstr_terminated {name rest : Bytes} (nonzero : 0 ∉ name) : cstr (name ++ 0 :: rest) = name := by
  have front : ∀ c ∈ name, c ≠ 0 := fun c mem zero => nonzero (zero ▸ mem)
  unfold cstr
  rw [List.takeWhile_append_of_pos]
  · simp
  · simpa using front

namespace SniffSound

variable {s s' : StreamSniff}

theorem start : SniffSound {} where
  observed := Nat.zero_le _
  size := List.length_replicate
  terminated := List.mem_replicate.2 ⟨by decide, rfl⟩
  hostName := by
    intro parsed
    cases parsed
  blank := by
    intro _
    rw [cstr, List.replicate_succ, List.takeWhile_cons_of_neg (by decide)]
  finished := rfl

theorem not_parsed (sound : SniffSound s) (undone : s.done = false) : s.status ≠ .parsed := by
  intro parsed
  have finished := sound.finished
  rw [undone, parsed] at finished
  cases finished

theorem step (sound : SniffSound s) (moved : PeekStep s s') : SniffSound s' := by
  cases moved with
  | nothing => exact sound
  | waits undone bound =>
    refine ⟨bound, sound.size, sound.terminated, ?_, fun _ => sound.blank (sound.not_parsed undone), undone⟩
    intro parsed
    cases parsed
  | givesUp undone bound =>
    refine ⟨bound, sound.size, sound.terminated, ?_, fun _ => sound.blank (sound.not_parsed undone), rfl⟩
    intro parsed
    cases parsed
  | @ends n r undone bound terminal written =>
    by_cases named : r.status = .parsed
    · obtain ⟨name, copied, host, fits⟩ := written.named named
      have layout : writeOut s.sni r = name ++ 0 :: s.sni.drop (name.length + 1) := by
        rw [writeOut, copied]
        simp [Lib.putAt]
      have string : cstr (writeOut s.sni r) = name := by
        rw [layout]
        exact cstr_terminated (not_mem_hostName host)
      refine ⟨bound, ?_, ?_, ?_, fun other => absurd named other, terminal.symm⟩
      · show (writeOut s.sni r).length = _
        have size := sound.size
        rw [layout, List.length_append, List.length_cons, List.length_drop]
        omega
      · show 0 ∈ writeOut s.sni r
        rw [layout]
        exact List.mem_append_right _ List.mem_cons_self
      · intro _
        show HostName (cstr (writeOut s.sni r))
        rw [string]
        exact host
    · have same : writeOut s.sni r = s.sni := by rw [writeOut, written.silent named]
      refine ⟨bound, ?_, ?_, fun parsed => absurd parsed named, fun _ => ?_, terminal.symm⟩
      · show (writeOut s.sni r).length = _
        rw [same]
        exact sound.size
      · show 0 ∈ writeOut s.sni r
        rw [same]
        exact sound.terminated
      · show cstr (writeOut s.sni r) = []
        rw [same]
        exact sound.blank (sound.not_parsed undone)

theorem run (sound : SniffSound s) (inputs : List Bytes) : SniffSound (sniffChunks s inputs) := by
  induction inputs generalizing s with
  | nil => exact sound
  | cons input inputs ih => exact ih (sound.step (peek_step s input))

theorem named_iff (sound : SniffSound s) : cstr s.sni ≠ [] ↔ s.status = .parsed := by
  constructor
  · intro named
    by_contra other
    exact named (sound.blank other)
  · intro parsed empty
    have host := sound.hostName parsed
    rw [empty] at host
    exact absurd host.1 (by decide)

/-- The log line is a tag or the name. -/
theorem logged (sound : SniffSound s) :
    IsLogTag (streamSniffLogSni (some s)) ∨ HostName (streamSniffLogSni (some s)) := by
  simp only [streamSniffLogSni]
  by_cases named : s.status = .parsed ∧ s.sni.getD 0 0 ≠ 0
  · right
    rw [if_pos named]
    exact sound.hostName named.1
  · left
    rw [if_neg named]
    exact ⟨s.status, rfl⟩

end SniffSound

/-- What holds of a sniffer at any time, and what its log line can be. -/
structure SnifferSafe (s : StreamSniff) : Prop where
  observed : s.observed ≤ streamSniffMax
  terminated : s.sni.length = streamSniMax + 1 ∧ 0 ∈ s.sni
  named : cstr s.sni ≠ [] ↔ s.status = .parsed
  finished : s.done = true ↔ s.status ∈ [.parsed, .missing, .notTls, .truncated, .nameTooLong, .parseError]
  final : s.done = true → ∀ inputs, sniffChunks s inputs = s
  logged : ∀ p, p = none ∨ p = some s → IsLogTag (streamSniffLogSni p) ∨ HostName (streamSniffLogSni p)

theorem terminal_iff {status : StreamSniffStatus} :
    status.terminal = true ↔ status ∈ [.parsed, .missing, .notTls, .truncated, .nameTooLong, .parseError] := by
  cases status <;> decide

/-- **A sniffer is safe after any calls**, on any contents of the input buffer: its state is consistent, it does not
change once it is done, and its log line is a fixed tag or a host name. -/
theorem sniffer_safe (inputs : List Bytes) : SnifferSafe (sniffChunks {} inputs) := by
  have sound := SniffSound.start.run inputs
  refine ⟨sound.observed, ⟨sound.size, sound.terminated⟩, sound.named_iff, ?_, ?_, ?_⟩
  · rw [sound.finished]
    exact terminal_iff
  · intro done inputs
    exact sniffChunks_done done inputs
  · rintro p (rfl | rfl)
    · exact .inl ⟨.notObserved, rfl⟩
    · exact sound.logged

end Tinyproxy
