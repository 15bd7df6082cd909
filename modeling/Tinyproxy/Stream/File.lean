import Tinyproxy.Lib.Machine
import Tinyproxy.Stream.Bufferevent

/-!
# Files as upstreams

`stream_file.c`: a connection whose upstream is a file. `file_write_cb` queues the
file in chunks up to the high watermark; libevent runs it again when the output has
drained to the low watermark of 0 bytes, and it closes the connection once it finds
both the file and the output at their ends.

The client's bufferevent is the one of `Stream/Bufferevent.lean`; its reading side
stays off. A high watermark for writing, which `start_stream_file` sets, has no effect
in libevent.
-/

namespace Tinyproxy

open Lib (Machine)

/-- `FILE_CHUNK_SIZE`. -/
def fileChunkSize : Nat := 4096

/-- What the calls of one turn of the loop do: `fread` stops only at the end of the file and the bytes are queued;
`fread` stops after `n` bytes at an error; or `bufferevent_write` fails. -/
inductive FileTurn where
  | ok
  | readError (n : Nat)
  | writeError
  deriving DecidableEq

/-- `struct file_conn` with its client. `rest` is the file from its position on, `ferror` the error indicator, and
`dones` counts the calls of `file_done`, after which nothing of it is used any more. -/
structure FileConn where
  client : Bufferevent
  rest : Bytes
  ferror : Bool := false
  dones : Nat := 0
  deriving DecidableEq

/-- `file_done`. -/
def fileDone (fc : FileConn) : FileConn := { fc with dones := fc.dones + 1 }

/-- `file_event_cb`. -/
def fileEventCb (fc : FileConn) : FileConn := fileDone fc

/-- The bytes `fread` returns. -/
def FileTurn.fread (turn : FileTurn) (rest : Bytes) : Bytes :=
  match turn with
  | .readError n => (rest.take fileChunkSize).take n
  | _ => rest.take fileChunkSize

/-- The state of the stream after them. -/
def FileTurn.advance (turn : FileTurn) (fc : FileConn) : FileConn :=
  { fc with
    rest := fc.rest.drop (turn.fread fc.rest).length
    ferror := fc.ferror || (match turn with | .readError _ => true | _ => false) }

theorem FileTurn.fread_append (turn : FileTurn) (rest : Bytes) :
    turn.fread rest ++ rest.drop (turn.fread rest).length = rest := by
  apply List.prefix_iff_eq_append.1
  cases turn with
  | ok | writeError => exact List.take_prefix _ _
  | readError n => exact (List.take_prefix _ _).trans (List.take_prefix _ _)

/-- The loop of `file_write_cb` from turn `k` on. -/
def fileWriteLoop (turns : Nat → FileTurn) (k : Nat) (fc : FileConn) : FileConn :=
  if fc.client.output.length < streamReadHighWater then
    let chunk := (turns k).fread fc.rest
    let next := (turns k).advance fc
    if 0 < chunk.length then
      if turns k = .writeError then fileDone next
      else fileWriteLoop turns (k + 1) { next with client := next.client.write chunk }
    else if next.ferror then fileDone next
    else if fc.client.output.length = 0 then fileDone next
    else next
  else fc
termination_by fc.rest.length
decreasing_by
  have whole := congrArg List.length ((turns k).fread_append fc.rest)
  have some : 0 < ((turns k).fread fc.rest).length := by assumption
  rw [List.length_append] at whole
  simp only [FileTurn.advance]
  omega

/-- `file_write_cb`. -/
def fileWriteCb (turns : Nat → FileTurn) (fc : FileConn) : FileConn := fileWriteLoop turns 0 fc

/-- What the calls of `start_stream_file` return: the file or the `errno` of `fopen`, and whether `calloc` succeeds. -/
structure FileEnv where
  fopen : Except Errno Bytes
  callocOk : Bool
  turns : Nat → FileTurn

/-- `start_stream_file`; where it fails it has freed the connection. -/
def startStreamFile (env : FileEnv) (r : Route) (client : Bufferevent) : Except Errno FileConn :=
  match env.fopen with
  | .error err => .error err
  | .ok content =>
    if !env.callocOk then .error .enomem else
    let client := client.enable false true
    let client := client.setTimeouts (some r.opts.idleTimeoutSec) (some r.opts.idleTimeoutSec)
    .ok (fileWriteCb env.turns { client := client, rest := content })

/-- What happens to the connection: `n` bytes of output leave for the client, or the client's event callback runs. -/
inductive FileEvent where
  | drain (n : Nat) (turns : Nat → FileTurn)
  | client (dir : Direction) (cond : Condition)

/-- A file connection in its event loop, while `free_conn` has not run. The write callback runs when the output is
empty. -/
def fileMachine : Machine FileConn FileEvent where
  step fc
    | .drain n turns =>
      if fc.dones = 0 ∧ fc.client.canWrite n = true then
        let fc := { fc with client := fc.client.drain n }
        some (if fc.client.output = [] then fileWriteCb turns fc else fc)
      else none
    | .client dir cond =>
      if fc.dones = 0 ∧ fc.client.canSignal dir cond = true then
        some (fileEventCb { fc with client := fc.client.fail dir })
      else none

/-! ## One callback -/

/-- All that the callback needs of the connection: what has been sent, what is queued and what is left are the file. -/
structure FileConn.Whole (content : Bytes) (fc : FileConn) : Prop where
  pieces : fc.client.sent ++ (fc.client.output ++ fc.rest) = content
  short : fc.client.output.length ≤ streamReadHighWater - 1 + fileChunkSize

/-- What a callback has done when it returns: it has queued more of the file, and has then either left output queued or
run `file_done` once. -/
structure FileConn.Pumped (content : Bytes) (fc after : FileConn) : Prop where
  client : after.client = { fc.client with output := after.client.output }
  queued : fc.client.sent ++ after.client.output <+: content
  short : after.client.output.length ≤ streamReadHighWater - 1 + fileChunkSize
  ends : after.dones = fc.dones ∧ after.client.output ≠ [] ∧ after.Whole content ∨ after.dones = fc.dones + 1

theorem FileTurn.fread_length (turn : FileTurn) (rest : Bytes) : (turn.fread rest).length ≤ fileChunkSize := by
  cases turn with
  | ok | writeError =>
    simp only [fread, List.length_take]
    omega
  | readError n =>
    simp only [fread, List.length_take]
    omega

/-- A chunk moves from the file to the output. -/
theorem FileConn.Whole.write {content : Bytes} {fc : FileConn} (whole : fc.Whole content) (turn : FileTurn)
    (room : fc.client.output.length < streamReadHighWater) :
    FileConn.Whole content
      { turn.advance fc with client := (turn.advance fc).client.write (turn.fread fc.rest) } := by
  have split := turn.fread_append fc.rest
  have size := turn.fread_length fc.rest
  constructor
  · show fc.client.sent ++ (fc.client.output ++ turn.fread fc.rest ++ fc.rest.drop (turn.fread fc.rest).length) = content
    rw [List.append_assoc, split, whole.pieces]
  · show (fc.client.output ++ turn.fread fc.rest).length ≤ _
    rw [List.length_append]
    omega

/-- At the end of the file nothing moves. -/
theorem FileConn.Whole.advance {content : Bytes} {fc : FileConn} (whole : fc.Whole content) {turn : FileTurn}
    (none : ¬ 0 < (turn.fread fc.rest).length) : (turn.advance fc).Whole content := by
  refine ⟨?_, whole.short⟩
  have stays : (turn.advance fc).rest = fc.rest := by
    show fc.rest.drop (turn.fread fc.rest).length = fc.rest
    rw [Nat.eq_zero_of_not_pos none, List.drop_zero]
  rw [stays]
  exact whole.pieces

theorem FileConn.Whole.queued {content : Bytes} {fc : FileConn} (whole : fc.Whole content) :
    fc.client.sent ++ fc.client.output <+: content :=
  ⟨fc.rest, by rw [List.append_assoc, whole.pieces]⟩

theorem fileWriteLoop_pumped {content : Bytes} (turns : Nat → FileTurn) (k : Nat) (fc : FileConn)
    (whole : fc.Whole content) : fc.Pumped content (fileWriteLoop turns k fc) := by
  fun_induction fileWriteLoop turns k fc with
  | case1 k fc room chunk next some failed => exact ⟨rfl, whole.queued, whole.short, .inr rfl⟩
  | case2 k fc room chunk next some written ih =>
    have later := ih (whole.write (turns k) room)
    exact ⟨later.client, later.queued, later.short, later.ends⟩
  | case3 k fc room chunk next none failed => exact ⟨rfl, whole.queued, whole.short, .inr rfl⟩
  | case4 k fc room chunk next none fine empty => exact ⟨rfl, whole.queued, whole.short, .inr rfl⟩
  | case5 k fc room chunk next none fine waiting =>
    refine ⟨rfl, whole.queued, whole.short, .inl ⟨rfl, ?_, whole.advance none⟩⟩
    exact fun empty => waiting (List.length_eq_zero_iff.2 empty)
  | case6 k fc full =>
    refine ⟨rfl, whole.queued, whole.short, .inl ⟨rfl, ?_, whole⟩⟩
    intro empty
    rw [empty] at full
    exact full (by decide)

/-- Without a failing call, `file_done` runs only when the whole file has been sent. -/
theorem fileWriteLoop_complete {content : Bytes} {turns : Nat → FileTurn} (fine : ∀ k, turns k = .ok) (k : Nat)
    (fc : FileConn) (whole : fc.Whole content) (clear : fc.ferror = false) :
    (fileWriteLoop turns k fc).ferror = false ∧
      ((fileWriteLoop turns k fc).dones ≠ fc.dones → fc.client.sent = content) := by
  fun_induction fileWriteLoop turns k fc with
  | case1 k fc room chunk next some failed =>
    rw [fine k] at failed
    cases failed
  | case2 k fc room chunk next some written ih =>
    have error : next.ferror = false := by
      simp only [next, fine k, FileTurn.advance, clear, Bool.or_false]
    exact ih (whole.write (turns k) room) error
  | case3 k fc room chunk next none failed =>
    simp only [next, fine k, FileTurn.advance, clear, Bool.or_false] at failed
    cases failed
  | case4 k fc room chunk next none error empty =>
    refine ⟨by simpa [next, fileDone] using error, fun _ => ?_⟩
    have output : fc.client.output = [] := List.length_eq_zero_iff.1 empty
    have rest : fc.rest = [] := by
      have all := List.length_eq_zero_iff.1 (Nat.eq_zero_of_not_pos none)
      simp only [chunk, fine k, FileTurn.fread, List.take_eq_nil_iff] at all
      exact all.resolve_left (by decide)
    rw [← whole.pieces, output, rest, List.append_nil, List.append_nil]
  | case5 k fc room chunk next none error waiting => exact ⟨by simpa using error, fun more => absurd rfl more⟩
  | case6 k fc full => exact ⟨clear, fun more => absurd rfl more⟩

/-- Where `file_write_cb` returns without closing, there is output. -/
theorem fileWriteLoop_waits (turns : Nat → FileTurn) (k : Nat) (fc : FileConn)
    (unclosed : (fileWriteLoop turns k fc).dones = fc.dones) : (fileWriteLoop turns k fc).client.output ≠ [] := by
  fun_induction fileWriteLoop turns k fc with
  | case1 k fc room chunk next some failed => exact absurd unclosed (Nat.succ_ne_self _)
  | case2 k fc room chunk next some written ih => exact ih unclosed
  | case3 k fc room chunk next none failed => exact absurd unclosed (Nat.succ_ne_self _)
  | case4 k fc room chunk next none fine empty => exact absurd unclosed (Nat.succ_ne_self _)
  | case5 k fc room chunk next none fine waiting => exact fun empty => waiting (List.length_eq_zero_iff.2 empty)
  | case6 k fc full =>
    intro empty
    rw [empty] at full
    exact full (by decide)

/-! ## Runs -/

/-- Every state of a file connection: what was sent and what is queued is the beginning of the file, and while the
connection is open the rest is still to be read, there is output, and writing is on. -/
structure FileConn.Serving (content : Bytes) (fc : FileConn) : Prop where
  queued : fc.client.sent ++ fc.client.output <+: content
  short : fc.client.output.length ≤ streamReadHighWater - 1 + fileChunkSize
  once : fc.dones ≤ 1
  live : fc.dones = 0 →
    fc.Whole content ∧ fc.client.output ≠ [] ∧ fc.client.evWrite = true ∧ fc.client.connecting = false ∧
      0 < fc.client.maxSingleWrite

/-- A callback on an open connection. -/
theorem FileConn.Pumped.serving {content : Bytes} {fc after : FileConn} (pumped : fc.Pumped content after)
    (fresh : fc.dones = 0) (enabled : fc.client.evWrite = true) (connected : fc.client.connecting = false)
    (writes : 0 < fc.client.maxSingleWrite) : after.Serving content := by
  have same := pumped.client
  refine ⟨?_, pumped.short, ?_, ?_⟩
  · rw [same]
    exact pumped.queued
  · rcases pumped.ends with ⟨waits, -⟩ | done
    all_goals omega
  · intro unclosed
    rcases pumped.ends with ⟨-, output, whole⟩ | done
    · rw [same]
      exact ⟨whole, output, enabled, connected, writes⟩
    · omega

/-- One step. -/
theorem file_step {fc after : FileConn} {e : FileEvent} (step : fileMachine.step fc e = some after) :
    fc.dones = 0 ∧
      ((∃ n turns, e = .drain n turns ∧ fc.client.canWrite n = true ∧
        after = if fc.client.output.drop n = [] then fileWriteCb turns { fc with client := fc.client.drain n }
          else { fc with client := fc.client.drain n }) ∨
      ∃ dir cond, e = .client dir cond ∧ after = fileDone { fc with client := fc.client.fail dir }) := by
  cases e with
  | drain n turns =>
    obtain ⟨⟨fresh, can⟩, result⟩ := Lib.guard_some step
    exact ⟨fresh, .inl ⟨n, turns, rfl, can, result.symm⟩⟩
  | client dir cond =>
    obtain ⟨⟨fresh, -⟩, result⟩ := Lib.guard_some step
    exact ⟨fresh, .inr ⟨dir, cond, rfl, result.symm⟩⟩

theorem FileConn.Whole.drain {content : Bytes} {fc : FileConn} (whole : fc.Whole content) (n : Nat) :
    FileConn.Whole content { fc with client := fc.client.drain n } := by
  constructor
  · show fc.client.sent ++ fc.client.output.take n ++ (fc.client.output.drop n ++ fc.rest) = content
    rw [List.append_assoc, ← List.append_assoc (fc.client.output.take n), List.take_append_drop, whole.pieces]
  · show (fc.client.output.drop n).length ≤ _
    rw [List.length_drop]
    exact Nat.le_trans (Nat.sub_le _ _) whole.short

theorem FileConn.Serving.step {content : Bytes} {fc after : FileConn} {e : FileEvent} (serving : fc.Serving content)
    (step : fileMachine.step fc e = some after) : after.Serving content := by
  obtain ⟨fresh, ⟨n, turns, rfl, -, rfl⟩ | ⟨dir, cond, rfl, rfl⟩⟩ := file_step step
  · obtain ⟨whole, -, enabled, connected, writes⟩ := serving.live fresh
    split
    · exact (fileWriteLoop_pumped turns 0 _ (whole.drain n)).serving fresh enabled connected writes
    · rename_i output
      exact ⟨(whole.drain n).queued, (whole.drain n).short, serving.once, fun _ =>
        ⟨whole.drain n, output, enabled, connected, writes⟩⟩
  · have same : (fc.client.fail dir).sent = fc.client.sent ∧ (fc.client.fail dir).output = fc.client.output := by
      cases dir with
      | reading | writing => exact ⟨rfl, rfl⟩
    refine ⟨?_, ?_, ?_, fun unclosed => absurd unclosed (Nat.succ_ne_zero _)⟩
    · show (fc.client.fail dir).sent ++ (fc.client.fail dir).output <+: content
      rw [same.1, same.2]
      exact serving.queued
    · show (fc.client.fail dir).output.length ≤ _
      rw [same.2]
      exact serving.short
    · show fc.dones + 1 ≤ 1
      omega

/-- An event that is no event callback and during which no call fails. -/
def FileEvent.Quiet : FileEvent → Prop
  | .drain _ turns => ∀ k, turns k = .ok
  | .client _ _ => False

/-- The states reached without such events: the connection is closed only when everything has been sent. -/
structure FileConn.Clean (content : Bytes) (fc : FileConn) : Prop where
  serving : fc.Serving content
  clear : fc.ferror = false
  complete : fc.dones ≠ 0 → fc.client.sent = content

theorem fileWriteLoop_sent (turns : Nat → FileTurn) (k : Nat) (fc : FileConn) :
    (fileWriteLoop turns k fc).client.sent = fc.client.sent := by
  fun_induction fileWriteLoop turns k fc with
  | case2 k fc room chunk next some written ih => exact ih
  | case1 | case3 | case4 | case5 | case6 => rfl

theorem FileConn.Clean.step {content : Bytes} {fc after : FileConn} {e : FileEvent} (clean : fc.Clean content)
    (quiet : e.Quiet) (step : fileMachine.step fc e = some after) :
    after.Clean content ∧ fc.client.sent.length < after.client.sent.length := by
  have serving := clean.serving.step step
  obtain ⟨fresh, ⟨n, turns, rfl, can, rfl⟩ | ⟨dir, cond, rfl, rfl⟩⟩ := file_step step
  · obtain ⟨whole, output, -⟩ := clean.serving.live fresh
    have some : 0 < (fc.client.output.take n).length := by
      have filled := List.length_pos_iff.2 output
      simp only [Bufferevent.canWrite, Bool.and_eq_true, Bool.or_eq_true, decide_eq_true_eq, bne_iff_ne, beq_iff_eq] at can
      rw [List.length_take]
      omega
    have grows : fc.client.sent.length < (fc.client.drain n).sent.length := by
      show _ < (fc.client.sent ++ fc.client.output.take n).length
      rw [List.length_append]
      omega
    split at serving
    · rename_i empty
      rw [if_pos empty]
      obtain ⟨clear, complete⟩ := fileWriteLoop_complete quiet 0 _ (whole.drain n) clean.clear
      have sent := fileWriteLoop_sent turns 0 { fc with client := fc.client.drain n }
      refine ⟨⟨serving, clear, fun done => ?_⟩, ?_⟩
      · exact sent.trans (complete fun same => done (same.trans fresh))
      · show _ < (fileWriteLoop turns 0 _).client.sent.length
        rwa [sent]
    · rename_i output
      rw [if_neg output]
      exact ⟨⟨serving, clean.clear, fun done => absurd fresh done⟩, grows⟩
  · exact absurd quiet id

theorem FileConn.Serving.run {content : Bytes} {fc after : FileConn} {es : List FileEvent}
    (serving : fc.Serving content) (ran : fileMachine.run fc es = some after) : after.Serving content :=
  Machine.run_invariant (fun _ _ _ holds step => holds.step step) serving ran

theorem FileConn.Clean.run {content : Bytes} {fc after : FileConn} {es : List FileEvent} (clean : fc.Clean content)
    (quiet : ∀ e ∈ es, e.Quiet) (ran : fileMachine.run fc es = some after) :
    after.Clean content ∧ fc.client.sent.length + es.length ≤ after.client.sent.length := by
  induction es generalizing fc with
  | nil =>
    cases ran
    exact ⟨clean, Nat.le_refl _⟩
  | cons e es ih =>
    obtain ⟨next, step, rest⟩ := Machine.run_cons.1 ran
    obtain ⟨first, grows⟩ := clean.step (quiet e List.mem_cons_self) step
    obtain ⟨last, count⟩ := ih first (fun d mem => quiet d (List.mem_cons_of_mem e mem)) rest
    refine ⟨last, ?_⟩
    rw [List.length_cons]
    omega

/-- The connection `start_stream_file` sets up. -/
theorem startStreamFile_ok {env : FileEnv} {r : Route} {fd : Int} {content : Bytes} {fc : FileConn}
    (opened : env.fopen = .ok content) (started : startStreamFile env r (buffereventSocketNew fd) = .ok fc) :
    fc.Serving content ∧ fc.client.sent = [] ∧ ((∀ k, env.turns k = .ok) → fc.Clean content) := by
  simp only [startStreamFile, opened] at started
  split at started
  · cases started
  cases started
  have whole : FileConn.Whole content
      { client := ((buffereventSocketNew fd).enable false true).setTimeouts (some r.opts.idleTimeoutSec)
          (some r.opts.idleTimeoutSec), rest := content } :=
    ⟨rfl, Nat.zero_le _⟩
  have serving := (fileWriteLoop_pumped env.turns 0 _ whole).serving rfl rfl rfl (show 0 < 16384 by decide)
  have sent := fileWriteLoop_sent env.turns 0
    { client := ((buffereventSocketNew fd).enable false true).setTimeouts (some r.opts.idleTimeoutSec)
        (some r.opts.idleTimeoutSec), rest := content }
  refine ⟨serving, sent, fun fine => ?_⟩
  obtain ⟨clear, complete⟩ := fileWriteLoop_complete fine 0 _ whole rfl
  exact ⟨serving, clear, fun done => sent.trans (complete done)⟩

/-- While the connection is open libevent has something to write. -/
theorem FileConn.Serving.due {content : Bytes} {fc : FileConn} (serving : fc.Serving content) (fresh : fc.dones = 0)
    (turns : Nat → FileTurn) : ∃ n after, 0 < n ∧ fileMachine.step fc (.drain n turns) = some after := by
  obtain ⟨-, output, enabled, connected, writes⟩ := serving.live fresh
  have can : fc.client.canWrite 1 = true := by
    have filled := List.length_pos_iff.2 output
    simp only [Bufferevent.canWrite, enabled, connected, Bool.and_eq_true, Bool.not_false, decide_eq_true_eq]
    exact ⟨⟨⟨⟨trivial, trivial⟩, writes⟩, filled⟩, rfl⟩
  exact ⟨1, _, Nat.one_pos, if_pos ⟨fresh, can⟩⟩

/-- **Serving a file.** In every state of a file connection the bytes sent are a prefix of the file, the output
is bounded, `file_done` has run at most once and, while it has not, there is output and a write is due. A callback that
returns without closing leaves output behind. Without a client event or a failing call every event sends more of the
file, and the connection is closed exactly when all of it has been sent. -/
theorem file_upstream_served {env : FileEnv} {r : Route} {fd : Int} {content : Bytes} {start fc : FileConn}
    {es : List FileEvent} (opened : env.fopen = .ok content)
    (started : startStreamFile env r (buffereventSocketNew fd) = .ok start) (ran : fileMachine.run start es = some fc) :
    fc.client.sent <+: content ∧ fc.client.sent ++ fc.client.output <+: content ∧
    fc.client.output.length ≤ streamReadHighWater - 1 + fileChunkSize ∧
    fc.dones ≤ 1 ∧
    (fc.dones = 0 → fc.client.output ≠ [] ∧
      ∀ turns, ∃ n after, 0 < n ∧ fileMachine.step fc (.drain n turns) = some after) ∧
    (∀ turns (before : FileConn), (fileWriteCb turns before).dones = before.dones →
      (fileWriteCb turns before).client.output ≠ []) ∧
    ((∀ k, env.turns k = .ok) → (∀ e ∈ es, e.Quiet) →
      (fc.dones = 1 ↔ fc.client.sent = content) ∧ es.length ≤ fc.client.sent.length) := by
  obtain ⟨first, empty, clean⟩ := startStreamFile_ok opened started
  have serving := first.run ran
  refine ⟨(List.prefix_append _ _).trans serving.queued, serving.queued, serving.short, serving.once, ?_, ?_, ?_⟩
  · intro fresh
    exact ⟨(serving.live fresh).2.1, serving.due fresh⟩
  · exact fun turns before => fileWriteLoop_waits turns 0 before
  · intro fine quiet
    obtain ⟨last, count⟩ := (clean fine).run quiet ran
    rw [empty, List.length_nil, Nat.zero_add] at count
    refine ⟨⟨fun done => last.complete (by omega), fun all => ?_⟩, count⟩
    by_contra unclosed
    obtain ⟨whole, output, -⟩ := serving.live (by have := serving.once; omega)
    have pieces := congrArg List.length whole.pieces
    have filled := List.length_pos_iff.2 output
    rw [all, List.length_append, List.length_append] at pieces
    omega

/-- A file of three bytes. -/
def shortFile : FileEnv := { fopen := .ok [1, 2, 3], callocOk := true, turns := fun _ => .ok }

def shortFileRoute : Route where
  listen := { kind := .inet, proto := .tcp, port := 80 }
  upstream := { kind := .file, proto := .file, path := [0x2f, 0x66] }

/-- The connection while its output is `output` and `sent` has left. -/
def shortFileConn (sent output : Bytes) (dones : Nat) : FileConn where
  client := { fd := 7, output := output, sent := sent, timeoutRead := some 60, timeoutWrite := some 60 }
  rest := []
  dones := dones

theorem file_upstream_served_short :
    startStreamFile shortFile shortFileRoute (buffereventSocketNew 7) = .ok (shortFileConn [] [1, 2, 3] 0) ∧
      fileMachine.run (shortFileConn [] [1, 2, 3] 0) [.drain 2 fun _ => .ok, .drain 1 fun _ => .ok] =
        some (shortFileConn [1, 2, 3] [] 1) ∧
      ((shortFileConn [1, 2, 3] [] 1).dones = 1 ↔ (shortFileConn [1, 2, 3] [] 1).client.sent = [1, 2, 3]) := by
  have started : startStreamFile shortFile shortFileRoute (buffereventSocketNew 7) =
      .ok (shortFileConn [] [1, 2, 3] 0) := by
    decide +kernel
  have ran : fileMachine.run (shortFileConn [] [1, 2, 3] 0) [.drain 2 fun _ => .ok, .drain 1 fun _ => .ok] =
      some (shortFileConn [1, 2, 3] [] 1) := by
    decide +kernel
  obtain ⟨-, -, -, -, -, -, exactly⟩ := file_upstream_served rfl started ran
  refine ⟨started, ran, (exactly (fun _ => rfl) ?_).1⟩
  simp [FileEvent.Quiet]

end Tinyproxy
