import Tinyproxy.Conf.Serve
import Tinyproxy.Stream.Events

/-!
# Builtin upstreams of stream routes

`stream_builtin.c`: a connection without an upstream, answered from
`x_builtin_handle`. `start_stream_builtin` queues the answer and installs the callbacks
its action needs: `client_addr` closes when its answer has left, `http_ok` shuts down
its sending side and waits for the client, `discard` reads and drops, and `hang` leaves
what it reads in the input buffer, which has no limit there.
-/

namespace Tinyproxy

open Lib (Machine)

/-- The write callback of a builtin's client. -/
inductive BuiltinWriteCb where
  | none
  /-- `builtin_close_after_write_cb`. -/
  | closeAfterWrite
  /-- `builtin_http_close_after_write_cb`. -/
  | httpCloseAfterWrite
  deriving DecidableEq

/-- `conn_t` of a builtin upstream; `readCb` is whether `builtin_client_read_cb` is installed, and `frees` counts the
calls of `free_conn`, after which nothing of it is used any more. -/
structure BuiltinConn where
  client : Bufferevent
  readCb : Bool := false
  writeCb : BuiltinWriteCb := .none
  closeAfterClientEof : Bool := false
  frees : Nat := 0
  deriving DecidableEq

/-- `free_conn`. -/
def BuiltinConn.free (c : BuiltinConn) : BuiltinConn := { c with frees := c.frees + 1 }

/-- `finish_client_write` and the flag that is set after it. -/
def BuiltinConn.finish (c : BuiltinConn) : BuiltinConn :=
  let client := c.client.shutdownWrite
  let client := client.disable false true
  let client := client.enable true false
  { c with client := client.setTimeouts (some closeWaitTimeoutSec) none, closeAfterClientEof := true }

/-- `set_client_idle_timeout`. -/
def BuiltinConn.setClientIdleTimeout (c : BuiltinConn) (r : Route) : BuiltinConn :=
  { c with client := c.client.setTimeouts (some r.opts.idleTimeoutSec) (some r.opts.idleTimeoutSec) }

/-- The switch of `start_stream_builtin` on the client; `x_builtin_handle` has no action its default branch is for. -/
def answerBuiltin (c : BuiltinConn) (res : XBuiltinResponse) : BuiltinConn :=
  match res.action with
  | .close =>
    if res.data.length > 0 then
      { c with
        client := (c.client.write res.data).enable false true
        writeCb := .closeAfterWrite }
    else c.free
  | .httpResp =>
    if res.data.length > 0 then
      { c with
        client := (c.client.write res.data).enable true true
        readCb := true
        writeCb := .httpCloseAfterWrite }
    else
      let c := c.finish
      { c with client := c.client.enable true false, readCb := true }
  | .discard => { c with client := c.client.enable true false, readCb := true }
  | .hang => { c with client := c.client.enable true false }

/-- `start_stream_builtin` on the client; where it fails it has freed the connection. -/
def startBuiltinConn (r : Route) (clientAddr : Option Bytes) (client : Bufferevent) :
    BuiltinConn × Except Errno Unit :=
  match xBuiltinHandle r.upstream.builtin clientAddr with
  | .error rc => (({ client := client } : BuiltinConn).free, .error rc)
  | .ok res => (answerBuiltin (({ client := client } : BuiltinConn).setClientIdleTimeout r) res, .ok ())

/-- `builtin_client_read_cb`. -/
def builtinClientReadCb (c : BuiltinConn) : BuiltinConn := { c with client := { c.client with input := [] } }

/-- The write callback, which libevent runs when the output is empty. -/
def builtinWriteCb (c : BuiltinConn) : BuiltinConn :=
  match c.writeCb with
  | .none => c
  | .closeAfterWrite => if c.client.output.length = 0 then c.free else c
  | .httpCloseAfterWrite => if c.client.output.length ≠ 0 then c else c.finish

/-- What happens to the connection: bytes arrive, `n` bytes of output leave, or the client's event callback runs. -/
inductive BuiltinEvent where
  | read (chunk : Bytes)
  | drain (n : Nat)
  | client (dir : Direction) (cond : Condition)
  deriving DecidableEq

/-- A builtin connection in its event loop, while `free_conn` has not run. -/
def builtinMachine : Machine BuiltinConn BuiltinEvent where
  step c
    | .read chunk =>
      if c.frees = 0 ∧ c.client.canRead chunk = true then
        let c := { c with client := c.client.fill chunk }
        some (if c.readCb then builtinClientReadCb c else c)
      else none
    | .drain n =>
      if c.frees = 0 ∧ c.client.canWrite n = true then
        let c := { c with client := c.client.drain n }
        some (if c.client.output = [] then builtinWriteCb c else c)
      else none
    | .client dir cond =>
      -- `stream_client_event_cb` ends in `free_conn` for each of the three conditions
      if c.frees = 0 ∧ c.client.canSignal dir cond = true then some { c with client := c.client.fail dir }.free
      else none

/-- The descriptor is shut down exactly as `finish_client_write` does it for a piped connection. -/
theorem finish_client (c : Conn) (b : BuiltinConn) (same : b.client = c.client) :
    b.finish.client = (finishClientWrite c).client := by
  simp only [BuiltinConn.finish, finishClientWrite, same]

/-- What `start_stream_builtin` leaves is what its switch says. -/
theorem startBuiltinConn_result (r : Route) (clientAddr : Option Bytes) (client : Bufferevent) :
    (startBuiltinConn r clientAddr client).2 = (startStreamBuiltin r clientAddr).2 ∧
      ((startBuiltinConn r clientAddr client).1.frees = 1 ↔ (startStreamBuiltin r clientAddr).1 = .freed) := by
  unfold startBuiltinConn startStreamBuiltin
  cases answered : xBuiltinHandle r.upstream.builtin clientAddr with
  | error rc => simp [BuiltinConn.free]
  | ok res =>
    obtain ⟨action, data⟩ := res
    cases action with
    | close =>
      simp only [streamBuiltinAction, answerBuiltin]
      split <;> simp [BuiltinConn.free, BuiltinConn.setClientIdleTimeout]
    | httpResp =>
      simp only [streamBuiltinAction, answerBuiltin]
      split <;> simp [BuiltinConn.finish, BuiltinConn.setClientIdleTimeout]
    | discard => simp [streamBuiltinAction, answerBuiltin, BuiltinConn.setClientIdleTimeout]
    | hang => simp [streamBuiltinAction, answerBuiltin, BuiltinConn.setClientIdleTimeout]

/-! ## Every state of a builtin connection -/

/-- The callbacks of each action, and what they have done so far. -/
structure BuiltinConn.Serves (res : XBuiltinResponse) (c : BuiltinConn) : Prop where
  bytes : c.client.sent ++ c.client.output = res.data
  once : c.frees ≤ 1
  valid : 0 ≤ c.client.fd
  readCb : c.readCb = true ↔ res.action = .httpResp ∨ res.action = .discard
  held : res.action ≠ .hang → c.client.input = []
  kept : res.action = .hang → c.client.input = c.client.received
  shutdowns : c.client.shutdowns = if c.closeAfterClientEof then 1 else 0
  finished : c.closeAfterClientEof = true ↔ res.action = .httpResp ∧ c.client.output = []
  silent : c.closeAfterClientEof = true → c.client.evWrite = false
  closing : res.action = .close → c.client.evRead = false ∧
    (c.frees = 0 → c.writeCb = .closeAfterWrite ∧ c.client.output ≠ [])
  answering : res.action = .httpResp → c.closeAfterClientEof = false → c.writeCb = .httpCloseAfterWrite
  waiting : res.action = .discard ∨ res.action = .hang → c.writeCb = .none

theorem answerBuiltin_serves (r : Route) {fd : Int} (valid : 0 ≤ fd) (res : XBuiltinResponse)
    (silent : res.action = .discard ∨ res.action = .hang → res.data = []) :
    (answerBuiltin (({ client := buffereventSocketNew fd } : BuiltinConn).setClientIdleTimeout r) res).Serves res := by
  obtain ⟨action, data⟩ := res
  cases action with
  | close =>
    by_cases some : data.length > 0
    · have filled : data ≠ [] := List.length_pos_iff.1 some
      simp only [answerBuiltin, if_pos some, BuiltinConn.setClientIdleTimeout]
      constructor <;> simp [buffereventSocketNew, Bufferevent.setTimeouts, Bufferevent.write, Bufferevent.enable, valid,
        filled]
    · have empty : data = [] := List.length_eq_zero_iff.1 (by omega)
      subst empty
      simp only [answerBuiltin, BuiltinConn.setClientIdleTimeout]
      constructor <;> simp [buffereventSocketNew, Bufferevent.setTimeouts, BuiltinConn.free, valid]
  | httpResp =>
    by_cases some : data.length > 0
    · have filled : data ≠ [] := List.length_pos_iff.1 some
      simp only [answerBuiltin, if_pos some, BuiltinConn.setClientIdleTimeout]
      constructor <;> simp [buffereventSocketNew, Bufferevent.setTimeouts, Bufferevent.write, Bufferevent.enable, valid,
        filled]
    · have empty : data = [] := List.length_eq_zero_iff.1 (by omega)
      subst empty
      simp only [answerBuiltin, BuiltinConn.setClientIdleTimeout, BuiltinConn.finish]
      constructor <;> simp [buffereventSocketNew, Bufferevent.setTimeouts, Bufferevent.shutdownWrite,
        Bufferevent.disable, Bufferevent.enable, valid]
  | discard =>
    obtain rfl : data = [] := silent (.inl rfl)
    constructor <;> simp [answerBuiltin, BuiltinConn.setClientIdleTimeout, buffereventSocketNew, Bufferevent.setTimeouts,
      Bufferevent.enable, valid]
  | hang =>
    obtain rfl : data = [] := silent (.inr rfl)
    constructor <;> simp [answerBuiltin, BuiltinConn.setClientIdleTimeout, buffereventSocketNew, Bufferevent.setTimeouts,
      Bufferevent.enable, valid]

namespace BuiltinConn.Serves

variable {res : XBuiltinResponse} {c : BuiltinConn}

theorem read (serves : c.Serves res) {chunk : Bytes} (can : c.client.canRead chunk = true) :
    BuiltinConn.Serves res
      (let c := { c with client := c.client.fill chunk }
       if c.readCb then builtinClientReadCb c else c) := by
  have enabled := c.client.canRead_evRead can
  have open_action : res.action ≠ .close := by
    intro close
    rw [(serves.closing close).1] at enabled
    cases enabled
  dsimp only
  split
  · rename_i drains
    have drained : res.action ≠ .hang := by
      intro hang
      have := serves.readCb.1 drains
      simp [hang] at this
    exact { serves with
      held := fun _ => rfl
      kept := fun hang => absurd hang drained
      closing := fun close => absurd close open_action }
  · rename_i keeps
    have hang : res.action = .hang := by
      cases action : res.action with
      | hang => rfl
      | close => exact absurd action open_action
      | httpResp => exact absurd (serves.readCb.2 (.inl action)) keeps
      | discard => exact absurd (serves.readCb.2 (.inr action)) keeps
    refine { serves with
      held := fun other => absurd hang other
      kept := fun _ => ?_
      closing := fun close => absurd close open_action }
    show c.client.input ++ chunk = c.client.received ++ chunk
    rw [serves.kept hang]

/-- After the half-close nothing is written any more. -/
theorem unfinished (serves : c.Serves res) {n : Nat} (can : c.client.canWrite n = true) :
    c.closeAfterClientEof = false := by
  have enabled := c.client.canWrite_evWrite can
  apply eq_false_of_ne_true
  intro finished
  rw [serves.silent finished] at enabled
  cases enabled

theorem drain (serves : c.Serves res) {n : Nat} (live : c.frees = 0) (can : c.client.canWrite n = true) :
    BuiltinConn.Serves res
      (let c := { c with client := c.client.drain n }
       if c.client.output = [] then builtinWriteCb c else c) := by
  have unfinished := serves.unfinished can
  have bytes : (c.client.drain n).sent ++ (c.client.drain n).output = res.data := by
    rw [← serves.bytes]
    show c.client.sent ++ c.client.output.take n ++ c.client.output.drop n = _
    rw [List.append_assoc, List.take_append_drop]
  dsimp only
  split
  · rename_i empty
    cases action : res.action with
    | close =>
      obtain ⟨unread, busy⟩ := serves.closing action
      have freed : builtinWriteCb { c with client := c.client.drain n } =
          BuiltinConn.free { c with client := c.client.drain n } := by
        simp [builtinWriteCb, (busy live).1, empty]
      rw [freed]
      exact { serves with
        bytes := bytes
        once := by simp [BuiltinConn.free, live]
        finished := by simp [BuiltinConn.free, unfinished, action]
        closing := fun _ => ⟨unread, by simp [BuiltinConn.free]⟩ }
    | httpResp =>
      have finishes : builtinWriteCb { c with client := c.client.drain n } =
          BuiltinConn.finish { c with client := c.client.drain n } := by
        simp [builtinWriteCb, serves.answering action unfinished, empty]
      have unsent := serves.shutdowns
      rw [unfinished, if_neg Bool.false_ne_true] at unsent
      rw [finishes]
      refine { serves with
        bytes := bytes
        shutdowns := ?_
        finished := ?_
        silent := ?_
        closing := fun close => ?_
        answering := nofun }
      · have valid := serves.valid
        simp [BuiltinConn.finish, Bufferevent.setTimeouts, Bufferevent.enable, Bufferevent.disable,
          Bufferevent.shutdownWrite, Bufferevent.drain, unsent, valid]
      · simp only [BuiltinConn.finish, action, true_and, true_iff]
        exact empty
      · intro _
        simp [BuiltinConn.finish, Bufferevent.setTimeouts, Bufferevent.enable, Bufferevent.disable]
      · rw [action] at close
        cases close
    | discard =>
      have idle : builtinWriteCb { c with client := c.client.drain n } = { c with client := c.client.drain n } := by
        simp [builtinWriteCb, serves.waiting (.inl action)]
      rw [idle]
      exact { serves with
        bytes := bytes
        finished := by simp [unfinished, action]
        closing := fun close => by rw [action] at close; cases close }
    | hang =>
      have idle : builtinWriteCb { c with client := c.client.drain n } = { c with client := c.client.drain n } := by
        simp [builtinWriteCb, serves.waiting (.inr action)]
      rw [idle]
      exact { serves with
        bytes := bytes
        finished := by simp [unfinished, action]
        closing := fun close => by rw [action] at close; cases close }
  · rename_i more
    exact { serves with
      bytes := bytes
      finished := by simp [unfinished, more]
      closing := fun close => ⟨(serves.closing close).1, fun _ => ⟨((serves.closing close).2 live).1, more⟩⟩ }

theorem ends (serves : c.Serves res) {dir : Direction} (live : c.frees = 0) :
    BuiltinConn.Serves res (BuiltinConn.free { c with client := c.client.fail dir }) := by
  have same : (c.client.fail dir).sent = c.client.sent ∧ (c.client.fail dir).output = c.client.output ∧
      (c.client.fail dir).input = c.client.input ∧ (c.client.fail dir).received = c.client.received ∧
      (c.client.fail dir).shutdowns = c.client.shutdowns ∧ (c.client.fail dir).fd = c.client.fd := by
    cases dir <;> exact ⟨rfl, rfl, rfl, rfl, rfl, rfl⟩
  obtain ⟨sent, output, input, received, shutdowns, fd⟩ := same
  constructor
  · simpa [BuiltinConn.free, sent, output] using serves.bytes
  · simp [BuiltinConn.free, live]
  · simpa [BuiltinConn.free, fd] using serves.valid
  · exact serves.readCb
  · simpa [BuiltinConn.free, input] using serves.held
  · simpa [BuiltinConn.free, input, received] using serves.kept
  · show (c.client.fail dir).shutdowns = _
    rw [shutdowns]
    exact serves.shutdowns
  · simpa [BuiltinConn.free, output] using serves.finished
  · intro finished
    have silent := serves.silent finished
    cases dir <;> simp [BuiltinConn.free, Bufferevent.fail, Bufferevent.disable, silent]
  · intro close
    refine ⟨?_, by simp [BuiltinConn.free]⟩
    have unread := (serves.closing close).1
    cases dir <;> simp [BuiltinConn.free, Bufferevent.fail, Bufferevent.disable, unread]
  · exact serves.answering
  · exact serves.waiting

theorem step {c' : BuiltinConn} {e : BuiltinEvent} (serves : c.Serves res)
    (step : builtinMachine.step c e = some c') : c'.Serves res := by
  cases e with
  | read chunk =>
    obtain ⟨⟨-, can⟩, rfl⟩ := Lib.guard_some step
    exact serves.read can
  | drain n =>
    obtain ⟨⟨live, can⟩, rfl⟩ := Lib.guard_some step
    exact serves.drain live can
  | client dir cond =>
    obtain ⟨⟨live, -⟩, rfl⟩ := Lib.guard_some step
    exact serves.ends live

/-- What frees the connection: its answer has left, or the client's event callback. -/
theorem freed_by {c' : BuiltinConn} {e : BuiltinEvent} (serves : c.Serves res)
    (step : builtinMachine.step c e = some c') (freed : c'.frees ≠ 0) :
    (res.action = .close ∧ c'.client.output = []) ∨ ∃ dir cond, e = .client dir cond := by
  cases e with
  | client dir cond => exact .inr ⟨dir, cond, rfl⟩
  | read chunk =>
    obtain ⟨⟨live, -⟩, rfl⟩ := Lib.guard_some step
    refine absurd ?_ freed
    dsimp only
    split <;> exact live
  | drain n =>
    obtain ⟨⟨live, can⟩, rfl⟩ := Lib.guard_some step
    left
    dsimp only at freed ⊢
    split at freed
    · rename_i empty
      rw [if_pos empty]
      unfold builtinWriteCb at freed ⊢
      split at freed
      · exact absurd live freed
      · rename_i closes
        refine ⟨?_, ?_⟩
        · by_contra other
          cases action : res.action with
          | close => exact other action
          | discard => simp [serves.waiting (.inl action)] at closes
          | hang => simp [serves.waiting (.inr action)] at closes
          | httpResp =>
            simp [serves.answering action (serves.unfinished can)] at closes
        · split <;> exact empty
      · refine absurd ?_ freed
        split <;> exact live
    · exact absurd live freed

end BuiltinConn.Serves

/-- What a builtin promises its client, after the events `es`. -/
structure BuiltinServed (res : XBuiltinResponse) (es : List BuiltinEvent) (c : BuiltinConn) : Prop where
  /-- What was sent and what is queued is the answer, and nothing else. -/
  answer : c.client.sent ++ c.client.output = res.data
  freedOnce : c.frees ≤ 1
  /-- The proxy closes by itself only a connection whose whole answer has left. -/
  freedBy : c.frees = 1 → (res.action = .close ∧ c.client.sent = res.data) ∨
    ∃ ds dir cond, es = ds ++ [.client dir cond]
  /-- The sending side is shut down once, as soon as the whole of an HTTP answer has left, and never otherwise. -/
  halfClosed : c.client.shutdowns = if res.action = .httpResp ∧ c.client.sent = res.data then 1 else 0
  /-- Nothing of what a client sends is kept, unless the builtin is `hang`. -/
  unkept : res.action ≠ .hang → c.client.input = []
  kept : res.action = .hang → c.client.input = c.client.received

theorem xBuiltinHandle_silent {builtin : XBuiltinUpstream} {clientAddr : Option Bytes} {res : XBuiltinResponse}
    (answered : xBuiltinHandle builtin clientAddr = .ok res) :
    res.action = .discard ∨ res.action = .hang → res.data = [] := by
  cases builtin with
  | clientAddr =>
    cases clientAddr with
    | none => cases answered
    | some addr =>
      simp only [xBuiltinHandle] at answered
      split at answered
      · cases answered
      · cases answered
        simp
  | none => cases answered
  | _ =>
    cases answered
    simp

/-- **Serving a builtin**, in every state of a connection of any builtin upstream and whatever happens to it. -/
theorem builtin_upstream_served {r : Route} {clientAddr : Option Bytes} {fd : Int} {res : XBuiltinResponse}
    {c : BuiltinConn} {es : List BuiltinEvent} (valid : 0 ≤ fd)
    (answered : xBuiltinHandle r.upstream.builtin clientAddr = .ok res)
    (ran : builtinMachine.run (startBuiltinConn r clientAddr (buffereventSocketNew fd)).1 es = some c) :
    BuiltinServed res es c := by
  simp only [startBuiltinConn, answered] at ran
  have start := answerBuiltin_serves r valid res (xBuiltinHandle_silent answered)
  have traced : c.Serves res ∧ (c.frees ≠ 0 → (res.action = .close ∧ c.client.output = []) ∨
      ∃ ds dir cond, es = ds ++ [.client dir cond]) := by
    refine Machine.run_traced (P := fun es c => BuiltinConn.Serves res c ∧ (c.frees ≠ 0 →
      (res.action = .close ∧ c.client.output = []) ∨ ∃ ds dir cond, es = ds ++ [.client dir cond])) ?_ ?_ ran
    · refine ⟨start, fun freed => .inl ?_⟩
      -- a connection is freed at the start only where there is nothing to answer
      obtain ⟨action, data⟩ := res
      cases action with
      | close =>
        simp only [answerBuiltin] at freed ⊢
        split at freed
        · exact absurd rfl freed
        · rename_i none
          rw [if_neg none]
          exact ⟨trivial, rfl⟩
      | httpResp =>
        simp only [answerBuiltin] at freed
        split at freed <;> exact absurd rfl freed
      | discard => exact absurd rfl freed
      | hang => exact absurd rfl freed
    · intro ds u e v _ kept step
      refine ⟨kept.1.step step, fun freed => ?_⟩
      rcases kept.1.freed_by step freed with closed | ⟨dir, cond, rfl⟩
      · exact .inl closed
      · exact .inr ⟨ds, dir, cond, rfl⟩
  obtain ⟨serves, frees⟩ := traced
  have whole : c.client.output = [] ↔ c.client.sent = res.data := by
    constructor
    · intro empty
      have bytes := serves.bytes
      rwa [empty, List.append_nil] at bytes
    · intro sent
      have bytes := serves.bytes
      rw [sent] at bytes
      exact List.append_right_eq_self.1 bytes
  constructor
  · exact serves.bytes
  · exact serves.once
  · intro freed
    rcases frees (by omega) with ⟨close, empty⟩ | last
    · exact .inl ⟨close, whole.1 empty⟩
    · exact .inr last
  · rw [serves.shutdowns]
    simp only [serves.finished, whole]
  · exact serves.held
  · exact serves.kept

/-- The route of a client that asks for its address. -/
def builtinRoute (builtin : XBuiltinUpstream) : Route where
  listen := { kind := .inet, proto := .tcp, port := 80 }
  upstream := { kind := .builtin, proto := .builtin, builtin := builtin }

/-- `http_ok` to a client that sends three bytes before it takes the answer, and then closes. -/
theorem builtin_upstream_served_http :
    ∃ res c, xBuiltinHandle .httpOk none = .ok res ∧
      builtinMachine.run (startBuiltinConn (builtinRoute .httpOk) none (buffereventSocketNew 7)).1
        [.read [1, 2, 3], .drain 30, .drain 29, .client .reading .eof] = some c ∧
      c.client.sent = res.data ∧ c.frees = 1 ∧
      BuiltinServed res [.read [1, 2, 3], .drain 30, .drain 29, .client .reading .eof] c := by
  have seen : (builtinMachine.run (startBuiltinConn (builtinRoute .httpOk) none (buffereventSocketNew 7)).1
      [.read [1, 2, 3], .drain 30, .drain 29, .client .reading .eof]).map (fun c => (c.client.sent, c.frees)) =
        some (Lib.ascii "HTTP/1.1 200 OK\r\nContent-Length: 2\r\nConnection: close\r\n\r\nOK", 1) := by
    decide +kernel
  obtain ⟨c, ran, parts⟩ := Option.map_eq_some_iff.1 seen
  rw [Prod.mk.injEq] at parts
  exact ⟨_, c, rfl, ran, parts.1, parts.2, builtin_upstream_served (by decide) rfl ran⟩

/-! ## What `hang` holds on to -/

/-- A connection left alone, with reading on and no limit on its input. -/
structure BuiltinConn.Hangs (c : BuiltinConn) : Prop where
  live : c.frees = 0
  reading : c.client.evRead = true
  unread : c.readCb = false
  unlimited : c.client.readHigh = 0
  chunk : c.client.maxSingleRead = 16384

theorem BuiltinConn.Hangs.reads {c : BuiltinConn} (hangs : c.Hangs) {chunks : List Bytes}
    (sizes : ∀ chunk ∈ chunks, 0 < chunk.length ∧ chunk.length ≤ 16384) :
    ∃ after, builtinMachine.run c (chunks.map .read) = some after ∧ after.Hangs ∧
      after.client.input = c.client.input ++ chunks.flatten := by
  induction chunks generalizing c with
  | nil => exact ⟨c, rfl, hangs, by simp⟩
  | cons chunk chunks ih =>
    obtain ⟨some, fits⟩ := sizes chunk List.mem_cons_self
    have can : c.client.canRead chunk = true := by
      have filled : chunk.length ≠ 0 := by omega
      simp only [Bufferevent.canRead, Bufferevent.readLimit, hangs.reading, hangs.unlimited, hangs.chunk, if_true,
        Bool.true_and, Bool.and_eq_true, bne_iff_ne, decide_eq_true_eq]
      exact ⟨filled, fits⟩
    have step : builtinMachine.step c (.read chunk) = Option.some { c with client := c.client.fill chunk } := by
      simp only [builtinMachine]
      rw [if_pos ⟨hangs.live, can⟩, hangs.unread]
      rfl
    have later : BuiltinConn.Hangs { c with client := c.client.fill chunk } :=
      ⟨hangs.live, hangs.reading, hangs.unread, hangs.unlimited, hangs.chunk⟩
    obtain ⟨after, ran, still, input⟩ := ih later fun other mem => sizes other (List.mem_cons_of_mem _ mem)
    refine ⟨after, Machine.run_cons.2 ⟨_, step, ran⟩, still, ?_⟩
    rw [input, List.flatten_cons, ← List.append_assoc]
    rfl

/-- **`hang` holds everything its client sends**: nothing bounds the input of such a connection, while every other
builtin leaves it empty. -/
theorem hang_input_unbounded {r : Route} {clientAddr : Option Bytes} {fd : Int} {chunks : List Bytes}
    (hang : r.upstream.builtin = .hang) (sizes : ∀ chunk ∈ chunks, 0 < chunk.length ∧ chunk.length ≤ 16384) :
    ∃ c, builtinMachine.run (startBuiltinConn r clientAddr (buffereventSocketNew fd)).1 (chunks.map .read) = some c ∧
      c.frees = 0 ∧ c.client.input = chunks.flatten := by
  have start : (startBuiltinConn r clientAddr (buffereventSocketNew fd)).1.Hangs := by
    simp only [startBuiltinConn, hang, xBuiltinHandle]
    exact ⟨rfl, rfl, rfl, rfl, rfl⟩
  obtain ⟨c, ran, hangs, input⟩ := start.reads sizes
  refine ⟨c, ran, hangs.live, ?_⟩
  rw [input]
  simp [startBuiltinConn, hang, xBuiltinHandle, answerBuiltin, BuiltinConn.setClientIdleTimeout, buffereventSocketNew,
    Bufferevent.setTimeouts, Bufferevent.enable]

theorem hang_input_unbounded_two :
    ∃ c, builtinMachine.run (startBuiltinConn (builtinRoute .hang) none (buffereventSocketNew 7)).1
        ([[1, 2], [3]].map .read) = some c ∧ c.frees = 0 ∧ c.client.input = [1, 2, 3] :=
  @hang_input_unbounded _ none 7 [[1, 2], [3]] rfl (by simp)

end Tinyproxy
