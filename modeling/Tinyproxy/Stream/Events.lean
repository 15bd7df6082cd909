import Tinyproxy.Lib.Machine
import Tinyproxy.Stream.Adopt

/-!
# Runs of a piped connection

The events libevent can deliver to a piped connection, in any order, as a machine
on `Session`. An event is a read or a write on one of the two sockets, an event
callback on one of the two bufferevents, or the idle timer.

`Flow` is what the buffers, the enabled directions and the phase flags of a
connection say; `FlowStep` lists once what an event can do to it, and
`step_flow` that nothing else happens. Every invariant of the pipe is derived
from that list.
-/

namespace Tinyproxy

/-- What libevent can deliver. `connected` carries whether `evtimer_new` succeeds. -/
inductive ConnEvent where
  | connected (timerOk : Bool)
  | clientRead (chunk : Bytes)
  | upstreamRead (chunk : Bytes)
  | clientWrite (n : Nat)
  | upstreamWrite (n : Nat)
  | clientEvent (dir : Direction) (cond : Condition)
  | upstreamEvent (dir : Direction) (cond : Condition)
  | idleTimeout
  deriving DecidableEq

/-- Whether libevent can deliver the event to `c`. -/
def ConnEvent.enabled (c : Conn) : ConnEvent → Bool
  | .connected _ => c.upstream.canConnect
  | .clientRead chunk => c.client.canRead chunk
  | .upstreamRead chunk => c.upstream.canRead chunk
  | .clientWrite n => c.client.canWrite n
  | .upstreamWrite n => c.upstream.canWrite n
  | .clientEvent dir cond => c.client.canSignal dir cond
  | .upstreamEvent dir cond => c.upstream.canSignal dir cond
  | .idleTimeout => c.idlePending

/-- What libevent does for the event, and the callback it then runs. -/
def Conn.handle (c : Conn) : ConnEvent → Session
  | .connected timerOk =>
    streamUpstreamEventCb { c with upstream := { c.upstream with connecting := false } }
      { connected := true } timerOk
  | .clientRead chunk => .live (pipeClientReadCb { c with client := c.client.fill chunk })
  | .upstreamRead chunk => .live (pipeUpstreamReadCb { c with upstream := c.upstream.fill chunk })
  | .clientWrite n =>
    let c := { c with client := c.client.drain n }
    if c.client.output.length = 0 then .live (pipeClientWriteCb c) else .live c
  | .upstreamWrite n =>
    let c := { c with upstream := c.upstream.drain n }
    if c.upstream.output.length = 0 then .live (pipeUpstreamWriteCb c) else .live c
  | .clientEvent dir cond =>
    streamClientEventCb { c with client := c.client.fail dir } (cond.events dir)
  | .upstreamEvent dir cond =>
    streamUpstreamEventCb { c with upstream := c.upstream.fail dir } (cond.events dir) true
  | .idleTimeout => connIdleTimeoutCb { c with idlePending := false }

/-- The machine of one piped connection. -/
def connMachine : Lib.Machine Session ConnEvent where
  step s e := match s with
    | .live c => if e.enabled c then some (c.handle e) else none
    | .freed _ => none

/-- The part of a connection its data path depends on. -/
structure Flow where
  client : Bufferevent
  upstream : Bufferevent
  connected : Bool
  closeWait : Bool
  draining : Bool

/-- `closeWait` is `close_after_client_eof`, `draining` is `close_client_after_drain`. -/
def Conn.flow (c : Conn) : Flow :=
  ⟨c.client, c.upstream, c.upstreamConnected, c.closeAfterClientEof, c.closeClientAfterDrain⟩

/-- What `finish_client_write` makes of the client's bufferevent. -/
def Bufferevent.halfClosed (b : Bufferevent) : Bufferevent :=
  { b with
    shutdowns := b.shutdowns + if 0 ≤ b.fd then 1 else 0
    evRead := true
    evWrite := false
    timeoutRead := some closeWaitTimeoutSec
    timeoutWrite := none }

/-- What `drain_client_then_close` makes of the upstream's bufferevent after an event in direction `dir`: both
directions are disabled, and an event in the write direction has ended the connect. -/
def Bufferevent.stopped (b : Bufferevent) (dir : Direction) : Bufferevent :=
  { b with evRead := false, evWrite := false, connecting := b.connecting && dir == .reading }

/-- An upstream event does not start a connect. -/
theorem Bufferevent.stopped_connecting (b : Bufferevent) {dir : Direction}
    (connecting : (b.stopped dir).connecting = true) : b.connecting = true := by
  simp only [Bufferevent.stopped, Bool.and_eq_true] at connecting
  exact connecting.1

theorem Bufferevent.stopped_connected (b : Bufferevent) {dir : Direction} (connected : b.connecting = false) :
    (b.stopped dir).connecting = false := by
  simp [Bufferevent.stopped, connected]

/-- Everything an event can do to a connection that stays live. -/
inductive FlowStep (f : Flow) : ConnEvent → Flow → Prop where
  /-- The connect completes: the client is enabled in both directions. -/
  | connected {timerOk : Bool} (ready : f.upstream.canConnect = true) :
      FlowStep f (.connected timerOk)
        { f with
          connected := true
          upstream := { f.upstream with connecting := false, timeoutRead := none, timeoutWrite := none }
          client := { f.client with evRead := true, evWrite := true, timeoutRead := none, timeoutWrite := none } }
  /-- Client bytes move to the upstream's output, which pauses the client once it is full. -/
  | clientRead {chunk : Bytes} (ready : f.client.canRead chunk = true) :
      FlowStep f (.clientRead chunk)
        { f with
          upstream := { f.upstream with output := f.upstream.output ++ (f.client.input ++ chunk) }
          client := { f.client with
            input := []
            received := f.client.received ++ chunk
            evRead := decide ((f.upstream.output ++ (f.client.input ++ chunk)).length < streamReadHighWater) } }
  /-- Upstream bytes move to the client's output, which pauses the upstream once it is full. -/
  | upstreamRead {chunk : Bytes} (ready : f.upstream.canRead chunk = true) :
      FlowStep f (.upstreamRead chunk)
        { f with
          client := { f.client with output := f.client.output ++ (f.upstream.input ++ chunk) }
          upstream := { f.upstream with
            input := []
            received := f.upstream.received ++ chunk
            evRead := decide ((f.client.output ++ (f.upstream.input ++ chunk)).length < streamReadHighWater) } }
  /-- A write to the client that leaves output behind runs no callback. -/
  | clientWrite {n : Nat} (ready : f.client.canWrite n = true) (left : (f.client.drain n).output ≠ []) :
      FlowStep f (.clientWrite n) { f with client := f.client.drain n }
  /-- A drained client resumes the upstream. -/
  | clientDrained {n : Nat} (ready : f.client.canWrite n = true) (empty : (f.client.drain n).output = [])
      (normal : f.draining = false) :
      FlowStep f (.clientWrite n)
        { f with client := f.client.drain n, upstream := { f.upstream with evRead := true } }
  /-- The last byte of a response that was being drained: the client is half-closed. -/
  | clientFinished {n : Nat} (ready : f.client.canWrite n = true) (empty : (f.client.drain n).output = [])
      (last : f.draining = true) :
      FlowStep f (.clientWrite n)
        { f with client := (f.client.drain n).halfClosed, draining := false, closeWait := true }
  /-- A write to the upstream that leaves output behind runs no callback. -/
  | upstreamWrite {n : Nat} (ready : f.upstream.canWrite n = true) (left : (f.upstream.drain n).output ≠ []) :
      FlowStep f (.upstreamWrite n) { f with upstream := f.upstream.drain n }
  /-- A drained upstream resumes the client. -/
  | upstreamDrained {n : Nat} (ready : f.upstream.canWrite n = true) (empty : (f.upstream.drain n).output = []) :
      FlowStep f (.upstreamWrite n)
        { f with upstream := f.upstream.drain n, client := { f.client with evRead := true } }
  /-- The upstream is gone while a response is queued: the rest of it is drained first. -/
  | upstreamLost {dir : Direction} {cond : Condition} (ready : f.upstream.canSignal dir cond = true)
      (kind : cond ≠ .timeout) (pending : f.client.output ≠ []) :
      FlowStep f (.upstreamEvent dir cond)
        { f with draining := true, upstream := f.upstream.stopped dir }
  /-- The upstream has ended with nothing queued: the client is half-closed at once. -/
  | upstreamEnded {dir : Direction} (ready : f.upstream.canSignal dir .eof = true)
      (nothing : f.client.output = []) :
      FlowStep f (.upstreamEvent dir .eof)
        { f with
          client := f.client.halfClosed
          upstream := f.upstream.stopped dir
          draining := false
          closeWait := true }
  /-- The idle timer finds activity and is scheduled again. -/
  | idle : FlowStep f .idleTimeout f

/-- Everything an event that ends in `free_conn` can do before: one direction may have been disabled. -/
inductive FreeStep (f : Flow) : ConnEvent → Flow → Prop where
  | client {dir : Direction} {cond : Condition} (ready : f.client.canSignal dir cond = true) :
      FreeStep f (.clientEvent dir cond) { f with client := f.client.fail dir }
  | timeout {dir : Direction} (ready : f.upstream.canSignal dir .timeout = true) :
      FreeStep f (.upstreamEvent dir .timeout) { f with upstream := f.upstream.fail dir }
  | error {dir : Direction} {err : Errno} (ready : f.upstream.canSignal dir (.error err) = true)
      (nothing : f.client.output = []) :
      FreeStep f (.upstreamEvent dir (.error err)) { f with upstream := f.upstream.fail dir }
  | idle : FreeStep f .idleTimeout f

/-- The bytes a connection has received, holds and has sent, on both sides. -/
structure FlowBytes where
  clientInput : Bytes
  clientOutput : Bytes
  clientReceived : Bytes
  clientSent : Bytes
  upstreamInput : Bytes
  upstreamOutput : Bytes
  upstreamReceived : Bytes
  upstreamSent : Bytes

def Flow.bytes (f : Flow) : FlowBytes where
  clientInput := f.client.input
  clientOutput := f.client.output
  clientReceived := f.client.received
  clientSent := f.client.sent
  upstreamInput := f.upstream.input
  upstreamOutput := f.upstream.output
  upstreamReceived := f.upstream.received
  upstreamSent := f.upstream.sent

theorem step_live {c : Conn} {e : ConnEvent} {s : Session} :
    connMachine.step (.live c) e = some s ↔ e.enabled c = true ∧ c.handle e = s := by
  simp only [connMachine]
  split
  · simp [*]
  · simp [*]

theorem Bufferevent.canRead_evRead (b : Bufferevent) {chunk : Bytes} (ready : b.canRead chunk = true) :
    b.evRead = true := by
  simp only [Bufferevent.canRead, Bool.and_eq_true] at ready
  exact ready.1.1

theorem Bufferevent.canWrite_evWrite (b : Bufferevent) {n : Nat} (ready : b.canWrite n = true) :
    b.evWrite = true := by
  simp only [Bufferevent.canWrite, Bool.and_eq_true] at ready
  exact ready.1.1.1.1

/-- An event callback needs an enabled direction or a connect in progress. -/
theorem Bufferevent.canSignal_enabled (b : Bufferevent) {dir : Direction} {cond : Condition}
    (ready : b.canSignal dir cond = true) :
    b.evRead = true ∨ b.evWrite = true ∨ (dir = .writing ∧ b.connecting = true ∧ cond ≠ .eof) := by
  cases dir with
  | reading =>
    simp only [Bufferevent.canSignal, Bool.and_eq_true] at ready
    exact .inl ready.1
  | writing =>
    simp only [Bufferevent.canSignal, Bool.and_eq_true, Bool.or_eq_true, bne_iff_ne] at ready
    rcases ready.1 with writes | connecting
    · exact .inr (.inl writes)
    · exact .inr (.inr ⟨rfl, connecting⟩)

/-! ## What the callbacks do to the flow -/

theorem pipeClientReadCb_flow (c : Conn) :
    (pipeClientReadCb c).flow =
      { c.flow with
        upstream := { c.upstream with output := c.upstream.output ++ c.client.input }
        client := { c.client with
          input := []
          evRead := c.client.evRead &&
            decide ((c.upstream.output ++ c.client.input).length < streamReadHighWater) } } := by
  simp only [pipeClientReadCb, evbufferAddBuffer, connTouch, List.length_append, ge_iff_le]
  by_cases room : c.upstream.output.length + c.client.input.length < streamReadHighWater
  · have below := Nat.not_le.2 room
    cases sniffing : c.route.opts.sniSniff with
    | true => simp [Conn.flow, room, below]
    | false => simp [Conn.flow, room, below]
  · have full := Nat.not_lt.1 room
    cases sniffing : c.route.opts.sniSniff with
    | true => simp [Conn.flow, Bufferevent.disable, full]
    | false => simp [Conn.flow, Bufferevent.disable, full]

theorem pipeUpstreamReadCb_flow (c : Conn) :
    (pipeUpstreamReadCb c).flow =
      { c.flow with
        client := { c.client with output := c.client.output ++ c.upstream.input }
        upstream := { c.upstream with
          input := []
          evRead := c.upstream.evRead &&
            decide ((c.client.output ++ c.upstream.input).length < streamReadHighWater) } } := by
  simp only [pipeUpstreamReadCb, evbufferAddBuffer, connTouch, List.length_append, ge_iff_le]
  by_cases room : c.client.output.length + c.upstream.input.length < streamReadHighWater
  · have below := Nat.not_le.2 room
    simp [Conn.flow, room, below]
  · have full := Nat.not_lt.1 room
    simp [Conn.flow, Bufferevent.disable, full]

theorem enterCloseWait_flow (c : Conn) :
    (enterCloseWait c).flow = { c.flow with client := c.client.halfClosed, draining := false, closeWait := true } := by
  simp [enterCloseWait, finishClientWrite, Conn.flow, Bufferevent.halfClosed, Bufferevent.shutdownWrite,
    Bufferevent.disable, Bufferevent.enable, Bufferevent.setTimeouts]

theorem drainClientThenClose_pending {c : Conn} (pending : c.client.output ≠ []) :
    (drainClientThenClose c).flow =
      { c.flow with draining := true, upstream := { c.upstream with evRead := false, evWrite := false } } := by
  have some : 0 < c.client.output.length := List.length_pos_iff.2 pending
  simp [drainClientThenClose, clientHasPendingOutput, Conn.flow, Bufferevent.disable, some]

theorem drainClientThenClose_nothing {c : Conn} (nothing : c.client.output = []) :
    (drainClientThenClose c).flow =
      { c.flow with
        client := c.client.halfClosed
        upstream := { c.upstream with evRead := false, evWrite := false }
        draining := false
        closeWait := true } := by
  have none : ¬ 0 < c.client.output.length := by simp [nothing]
  simp only [drainClientThenClose, clientHasPendingOutput, decide_eq_true_eq, none, if_false, enterCloseWait_flow]
  simp [Conn.flow, Bufferevent.disable]

theorem scheduleConnIdleTimer_flow (c : Conn) : (scheduleConnIdleTimer c).flow = c.flow := by
  unfold scheduleConnIdleTimer
  split
  · rfl
  · split <;> rfl

theorem startConnIdleTimer_flow (c : Conn) (timerOk : Bool) : (startConnIdleTimer c timerOk).flow = c.flow := by
  unfold startConnIdleTimer
  split
  · rfl
  · cases timerOk with
    | false => rfl
    | true =>
      simp only [Bool.not_true, Bool.false_eq_true, if_false, scheduleConnIdleTimer_flow]
      rfl

/-! ## Every step is on the list -/

theorem connected_flow {c c' : Conn} {timerOk : Bool} (ready : c.upstream.canConnect = true)
    (handled : c.handle (.connected timerOk) = .live c') : FlowStep c.flow (.connected timerOk) c'.flow := by
  simp only [Conn.handle, streamUpstreamEventCb, if_true, Session.live.injEq] at handled
  have timer := startConnIdleTimer_flow (clearIdleTimeout
    { c with upstream := { c.upstream with connecting := false }, upstreamConnected := true }) timerOk
  subst handled
  have step : FlowStep c.flow (.connected timerOk) _ := .connected ready
  simp only [Conn.flow, Flow.mk.injEq, clearIdleTimeout, Bufferevent.setTimeouts, Bufferevent.enable] at timer step ⊢
  simpa [timer] using step

theorem clientWrite_flow {c c' : Conn} {n : Nat} (ready : c.client.canWrite n = true)
    (handled : c.handle (.clientWrite n) = .live c') : FlowStep c.flow (.clientWrite n) c'.flow := by
  simp only [Conn.handle] at handled
  by_cases empty : (c.client.drain n).output = []
  · simp only [empty, List.length_nil, if_true, Session.live.injEq] at handled
    subst handled
    by_cases last : c.closeClientAfterDrain = true
    · simp only [pipeClientWriteCb, last, empty, List.length_nil, and_self, if_true, enterCloseWait_flow]
      exact .clientFinished ready empty last
    · have normal : c.closeClientAfterDrain = false := Bool.eq_false_iff.2 last
      have step := FlowStep.clientDrained (f := c.flow) ready empty normal
      simp only [pipeClientWriteCb, normal, empty, List.length_nil, Bool.false_eq_true, false_and, if_false,
        show 0 < streamWriteResumeWater by decide, if_true]
      simpa [Conn.flow, Bufferevent.enable, normal] using step
  · have left : (c.client.drain n).output.length ≠ 0 := fun h => empty (List.eq_nil_of_length_eq_zero h)
    simp only [left, if_false, Session.live.injEq] at handled
    subst handled
    exact .clientWrite ready empty

theorem upstreamWrite_flow {c c' : Conn} {n : Nat} (ready : c.upstream.canWrite n = true)
    (handled : c.handle (.upstreamWrite n) = .live c') : FlowStep c.flow (.upstreamWrite n) c'.flow := by
  simp only [Conn.handle] at handled
  by_cases empty : (c.upstream.drain n).output = []
  · simp only [empty, List.length_nil, if_true, Session.live.injEq] at handled
    subst handled
    simp only [pipeUpstreamWriteCb, empty, List.length_nil, show 0 < streamWriteResumeWater by decide, if_true]
    simpa [Conn.flow, Bufferevent.enable] using FlowStep.upstreamDrained (f := c.flow) ready empty
  · have left : (c.upstream.drain n).output.length ≠ 0 := fun h => empty (List.eq_nil_of_length_eq_zero h)
    simp only [left, if_false, Session.live.injEq] at handled
    subst handled
    exact .upstreamWrite ready empty

/-- Disabling one direction first makes no difference when both are disabled afterwards. -/
theorem Bufferevent.fail_stopped (b : Bufferevent) (dir : Direction) :
    ({ b.fail dir with evRead := false, evWrite := false } : Bufferevent) = b.stopped dir := by
  cases dir <;> simp [Bufferevent.fail, Bufferevent.disable, Bufferevent.stopped]

theorem upstreamEvent_flow {c c' : Conn} {dir : Direction} {cond : Condition}
    (ready : c.upstream.canSignal dir cond = true)
    (handled : c.handle (.upstreamEvent dir cond) = .live c') :
    FlowStep c.flow (.upstreamEvent dir cond) c'.flow := by
  by_cases pending : c.client.output = []
  · have none : clientHasPendingOutput { c with upstream := c.upstream.fail dir } = false := by
      simp [clientHasPendingOutput, pending]
    cases cond with
    | timeout => simp [Conn.handle, streamUpstreamEventCb, Condition.events, freeConn] at handled
    | error err => simp [Conn.handle, streamUpstreamEventCb, Condition.events, none, freeConn] at handled
    | eof =>
      simp only [Conn.handle, streamUpstreamEventCb, Condition.events, Bool.false_eq_true, if_false, if_true,
        Session.live.injEq] at handled
      subst handled
      rw [drainClientThenClose_nothing (c := { c with upstream := c.upstream.fail dir }) pending,
        Bufferevent.fail_stopped]
      exact .upstreamEnded ready pending
  · have some : clientHasPendingOutput { c with upstream := c.upstream.fail dir } = true := by
      simp [clientHasPendingOutput, List.length_pos_iff, pending]
    have kind : cond ≠ .timeout := by
      rintro rfl
      simp [Conn.handle, streamUpstreamEventCb, Condition.events, freeConn] at handled
    have drained : (drainClientThenClose { c with upstream := c.upstream.fail dir }) = c' := by
      cases cond with
      | timeout => exact absurd rfl kind
      | error err => simpa [Conn.handle, streamUpstreamEventCb, Condition.events, some] using handled
      | eof => simpa [Conn.handle, streamUpstreamEventCb, Condition.events] using handled
    rw [← drained, drainClientThenClose_pending (c := { c with upstream := c.upstream.fail dir }) pending,
      Bufferevent.fail_stopped]
    exact .upstreamLost ready kind pending

theorem idle_flow {c c' : Conn} (handled : c.handle .idleTimeout = .live c') : c'.flow = c.flow := by
  simp only [Conn.handle, connIdleTimeoutCb] at handled
  split at handled
  · cases handled
    exact scheduleConnIdleTimer_flow _
  · cases handled

theorem clientEvent_not_live {c c' : Conn} {dir : Direction} {cond : Condition} :
    c.handle (.clientEvent dir cond) ≠ .live c' := by
  cases cond <;> simp [Conn.handle, streamClientEventCb, Condition.events, freeConn]

/-- **What an event does to a connection that stays live.** -/
theorem step_flow {c c' : Conn} {e : ConnEvent} (step : connMachine.step (.live c) e = some (.live c')) :
    FlowStep c.flow e c'.flow := by
  obtain ⟨ready, handled⟩ := step_live.1 step
  cases e with
  | connected timerOk => exact connected_flow ready handled
  | clientRead chunk =>
    cases handled
    have enabled : (c.client.fill chunk).evRead = true := c.client.canRead_evRead ready
    rw [pipeClientReadCb_flow]
    simp only [enabled, Bool.true_and]
    exact .clientRead ready
  | upstreamRead chunk =>
    cases handled
    have enabled : (c.upstream.fill chunk).evRead = true := c.upstream.canRead_evRead ready
    rw [pipeUpstreamReadCb_flow]
    simp only [enabled, Bool.true_and]
    exact .upstreamRead ready
  | clientWrite n => exact clientWrite_flow ready handled
  | upstreamWrite n => exact upstreamWrite_flow ready handled
  | clientEvent dir cond => exact absurd handled clientEvent_not_live
  | upstreamEvent dir cond => exact upstreamEvent_flow ready handled
  | idleTimeout =>
    rw [idle_flow handled]
    exact .idle

theorem clientWrite_live {c : Conn} {n : Nat} : ∃ d, c.handle (.clientWrite n) = .live d := by
  simp only [Conn.handle]
  split
  · exact ⟨_, rfl⟩
  · exact ⟨_, rfl⟩

theorem upstreamWrite_live {c : Conn} {n : Nat} : ∃ d, c.handle (.upstreamWrite n) = .live d := by
  simp only [Conn.handle]
  split
  · exact ⟨_, rfl⟩
  · exact ⟨_, rfl⟩

/-- An upstream that is lost with a response queued does not free the connection. -/
theorem upstreamLost_live {c : Conn} {dir : Direction} {cond : Condition} (kind : cond ≠ .timeout)
    (pending : c.client.output ≠ []) : ∃ d, c.handle (.upstreamEvent dir cond) = .live d := by
  have some : clientHasPendingOutput { c with upstream := c.upstream.fail dir } = true := by
    simp [clientHasPendingOutput, List.length_pos_iff, pending]
  cases cond with
  | timeout => exact absurd rfl kind
  | error err => simp [Conn.handle, streamUpstreamEventCb, Condition.events, some]
  | eof => exact ⟨_, rfl⟩

/-- An event does one thing to a connection that stays live. -/
theorem FlowStep.unique {f g g' : Flow} {e : ConnEvent} (moved : FlowStep f e g) (other : FlowStep f e g') :
    g = g' := by
  cases moved with
  | connected ready => cases other; rfl
  | clientRead ready => cases other; rfl
  | upstreamRead ready => cases other; rfl
  | idle => cases other; rfl
  | clientWrite ready left =>
    cases other with
    | clientWrite ready' left' => rfl
    | clientDrained ready' empty' normal' => exact absurd empty' left
    | clientFinished ready' empty' last' => exact absurd empty' left
  | clientDrained ready empty normal =>
    cases other with
    | clientWrite ready' left' => exact absurd empty left'
    | clientDrained ready' empty' normal' => rfl
    | clientFinished ready' empty' last' => simp [normal] at last'
  | clientFinished ready empty last =>
    cases other with
    | clientWrite ready' left' => exact absurd empty left'
    | clientDrained ready' empty' normal' => simp [last] at normal'
    | clientFinished ready' empty' last' => rfl
  | upstreamWrite ready left =>
    cases other with
    | upstreamWrite ready' left' => rfl
    | upstreamDrained ready' empty' => exact absurd empty' left
  | upstreamDrained ready empty =>
    cases other with
    | upstreamWrite ready' left' => exact absurd empty left'
    | upstreamDrained ready' empty' => rfl
  | upstreamLost ready kind pending =>
    cases other with
    | upstreamLost ready' kind' pending' => rfl
    | upstreamEnded ready' nothing' => exact absurd nothing' pending
  | upstreamEnded ready nothing =>
    cases other with
    | upstreamLost ready' kind' pending' => exact absurd nothing pending'
    | upstreamEnded ready' nothing' => rfl

/-- **Every step on the list happens**, the idle timer apart, which has to be scheduled. -/
theorem flow_steps {c : Conn} {e : ConnEvent} {g : Flow} (moved : FlowStep c.flow e g) (event : e ≠ .idleTimeout) :
    ∃ d, connMachine.step (.live c) e = some (.live d) ∧ d.flow = g := by
  have live : e.enabled c = true ∧ ∃ d, c.handle e = .live d := by
    cases moved with
    | connected ready => exact ⟨ready, _, rfl⟩
    | clientRead ready => exact ⟨ready, _, rfl⟩
    | upstreamRead ready => exact ⟨ready, _, rfl⟩
    | clientWrite ready left => exact ⟨ready, clientWrite_live⟩
    | clientDrained ready empty normal => exact ⟨ready, clientWrite_live⟩
    | clientFinished ready empty last => exact ⟨ready, clientWrite_live⟩
    | upstreamWrite ready left => exact ⟨ready, upstreamWrite_live⟩
    | upstreamDrained ready empty => exact ⟨ready, upstreamWrite_live⟩
    | upstreamLost ready kind pending => exact ⟨ready, upstreamLost_live kind pending⟩
    | upstreamEnded ready nothing => exact ⟨ready, _, rfl⟩
    | idle => exact absurd rfl event
  obtain ⟨ready, d, handled⟩ := live
  have step := step_live.2 ⟨ready, handled⟩
  exact ⟨d, step, (step_flow step).unique moved⟩

theorem clientEvent_frees {c c' : Conn} {dir : Direction} {cond : Condition}
    (ready : c.client.canSignal dir cond = true) (handled : c.handle (.clientEvent dir cond) = .freed c') :
    FreeStep c.flow (.clientEvent dir cond) c'.flow := by
  have gone : freeConn { c with client := c.client.fail dir } = .freed c' := by
    cases cond <;> simpa [Conn.handle, streamClientEventCb, Condition.events] using handled
  cases gone
  exact .client ready

theorem upstreamEvent_frees {c c' : Conn} {dir : Direction} {cond : Condition}
    (ready : c.upstream.canSignal dir cond = true) (handled : c.handle (.upstreamEvent dir cond) = .freed c') :
    FreeStep c.flow (.upstreamEvent dir cond) c'.flow := by
  cases cond with
  | timeout =>
    have gone : freeConn { c with upstream := c.upstream.fail dir } = .freed c' := by
      simpa [Conn.handle, streamUpstreamEventCb, Condition.events] using handled
    cases gone
    exact .timeout ready
  | eof => simp [Conn.handle, streamUpstreamEventCb, Condition.events] at handled
  | error err =>
    by_cases pending : c.client.output = []
    · have none : clientHasPendingOutput { c with upstream := c.upstream.fail dir } = false := by
        simp [clientHasPendingOutput, pending]
      have gone : freeConn { c with upstream := c.upstream.fail dir } = .freed c' := by
        simpa [Conn.handle, streamUpstreamEventCb, Condition.events, none] using handled
      cases gone
      exact .error ready pending
    · have some : clientHasPendingOutput { c with upstream := c.upstream.fail dir } = true := by
        simpa [clientHasPendingOutput, List.length_pos_iff] using pending
      simp [Conn.handle, streamUpstreamEventCb, Condition.events, some] at handled

/-- **What an event does to a connection it frees.** -/
theorem step_freed {c c' : Conn} {e : ConnEvent} (step : connMachine.step (.live c) e = some (.freed c')) :
    FreeStep c.flow e c'.flow := by
  obtain ⟨ready, handled⟩ := step_live.1 step
  cases e with
  | connected timerOk => simp [Conn.handle, streamUpstreamEventCb] at handled
  | clientRead chunk => cases handled
  | upstreamRead chunk => cases handled
  | clientWrite n =>
    simp only [Conn.handle] at handled
    split at handled <;> cases handled
  | upstreamWrite n =>
    simp only [Conn.handle] at handled
    split at handled <;> cases handled
  | clientEvent dir cond => exact clientEvent_frees ready handled
  | upstreamEvent dir cond => exact upstreamEvent_frees ready handled
  | idleTimeout =>
    simp only [Conn.handle, connIdleTimeoutCb] at handled
    split at handled
    · cases handled
    · cases handled
      exact .idle

/-- No byte moves when a connection is freed. -/
theorem FreeStep.bytes {f g : Flow} {e : ConnEvent} (freed : FreeStep f e g) : g.bytes = f.bytes := by
  cases freed with
  | @client dir cond ready => cases dir <;> rfl
  | @timeout dir ready => cases dir <;> rfl
  | @error dir err ready nothing => cases dir <;> rfl
  | idle => rfl

/-- **The invariant rule for the data path**, for runs whose steps all meet `p`: what `FlowStep` and `FreeStep` keep
holds in every state of such a run. -/
theorem run_flow_along {Inv : Flow → Prop} {p : Flow → ConnEvent → Prop} {s t : Session} {es : List ConnEvent}
    (keeps : ∀ f e g, Inv f → p f e → FlowStep f e g → Inv g) (frees : ∀ f e g, Inv f → FreeStep f e g → Inv g)
    (start : Inv s.conn.flow) (along : connMachine.Along (fun s e => p s.conn.flow e) s es)
    (ran : connMachine.run s es = some t) : Inv t.conn.flow := by
  refine Lib.Machine.run_along (I := fun s : Session => Inv s.conn.flow) ?_ start along ran
  intro s e t before met step
  cases s with
  | freed c => cases step
  | live c =>
    cases t with
    | live c' => exact keeps _ e _ before met (step_flow step)
    | freed c' => exact frees _ e _ before (step_freed step)

/-- The invariant rule for all runs. -/
theorem run_flow {Inv : Flow → Prop} {s t : Session} {es : List ConnEvent}
    (keeps : ∀ f e g, Inv f → FlowStep f e g → Inv g) (frees : ∀ f e g, Inv f → FreeStep f e g → Inv g)
    (start : Inv s.conn.flow) (ran : connMachine.run s es = some t) : Inv t.conn.flow := by
  have along : connMachine.Along (fun _ _ => True) s es := Lib.Machine.along_of_forall fun _ _ _ => trivial
  apply run_flow_along (p := fun _ _ => True) _ frees start along ran
  intro f e g before _ moved
  exact keeps f e g before moved

/-- The connection after a run that is known to happen. -/
def Conn.after (c : Conn) (es : List ConnEvent) : Conn := ((connMachine.run (.live c) es).map Session.conn).getD c

end Tinyproxy
