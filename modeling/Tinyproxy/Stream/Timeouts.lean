import Tinyproxy.Stream.Backpressure

/-!
# Timeouts of the two bufferevents

Five functions set or clear bufferevent timeouts: `set_connect_timeout` arms the
upstream's write timeout, `clear_idle_timeout` disarms both sides once the connect
has completed, and `finish_client_write` arms the client's read timeout for the
close-wait. `Disarmed` is what this leaves armed in each phase. The close-wait
timeout is only observed while the client is read, which the backpressure pause of
`pipe_client_read_cb` can switch off, and a connect that completes in the close-wait
disarms it.
-/

namespace Tinyproxy

/-! ## The connect timeout -/

/-- What may be armed: nothing on the upstream once connected, and on the client only the close-wait read timeout. -/
structure Disarmed (f : Flow) : Prop where
  upstreamRead : f.upstream.timeoutRead = none
  upstreamWrite : f.connected = true → f.upstream.timeoutWrite = none
  clientRead : f.closeWait = false → f.client.timeoutRead = none
  clientWrite : f.client.timeoutWrite = none

namespace Disarmed

variable {f g : Flow} {e : ConnEvent}

theorem step (disarmed : Disarmed f) (moved : FlowStep f e g) : Disarmed g := by
  obtain ⟨upstreamRead, upstreamWrite, clientRead, clientWrite⟩ := disarmed
  cases moved with
  | connected ready => exact ⟨rfl, fun _ => rfl, fun _ => rfl, rfl⟩
  | clientFinished ready empty last => exact ⟨upstreamRead, upstreamWrite, fun closing => (by cases closing), rfl⟩
  | upstreamEnded ready nothing => exact ⟨upstreamRead, upstreamWrite, fun closing => (by cases closing), rfl⟩
  | clientRead ready => exact ⟨upstreamRead, upstreamWrite, clientRead, clientWrite⟩
  | upstreamRead ready => exact ⟨upstreamRead, upstreamWrite, clientRead, clientWrite⟩
  | clientWrite ready left => exact ⟨upstreamRead, upstreamWrite, clientRead, clientWrite⟩
  | clientDrained ready empty normal => exact ⟨upstreamRead, upstreamWrite, clientRead, clientWrite⟩
  | upstreamWrite ready left => exact ⟨upstreamRead, upstreamWrite, clientRead, clientWrite⟩
  | upstreamDrained ready empty => exact ⟨upstreamRead, upstreamWrite, clientRead, clientWrite⟩
  | upstreamLost ready kind pending => exact ⟨upstreamRead, upstreamWrite, clientRead, clientWrite⟩
  | idle => exact ⟨upstreamRead, upstreamWrite, clientRead, clientWrite⟩

theorem freed (disarmed : Disarmed f) (gone : FreeStep f e g) : Disarmed g := by
  obtain ⟨upstreamRead, upstreamWrite, clientRead, clientWrite⟩ := disarmed
  cases gone with
  | @client dir cond ready => cases dir <;> exact ⟨upstreamRead, upstreamWrite, clientRead, clientWrite⟩
  | @timeout dir ready => cases dir <;> exact ⟨upstreamRead, upstreamWrite, clientRead, clientWrite⟩
  | @error dir err ready nothing => cases dir <;> exact ⟨upstreamRead, upstreamWrite, clientRead, clientWrite⟩
  | idle => exact ⟨upstreamRead, upstreamWrite, clientRead, clientWrite⟩

end Disarmed

theorem adopted_disarmed {env : AdoptEnv} {ac : WorkerStreamClientMsg} {c : Conn} {es : List ConnEvent} {s : Session}
    (adopted : workerAdoptClientFd env ac = .piped c) (ran : connMachine.run (.live c) es = some s) :
    Disarmed s.conn.flow := by
  obtain ⟨fd, header, -, rfl⟩ := adopted_piped adopted
  have fresh : Disarmed (freshConn ac.route ac.fd fd header).flow := by
    refine ⟨rfl, ?_, fun _ => rfl, rfl⟩
    intro connected
    cases connected
  apply run_flow (s := .live _) _ _ fresh ran
  · intro f e g disarmed moved
    exact disarmed.step moved
  · intro f e g disarmed gone
    exact disarmed.freed gone

/-- `upstream_connected` records that the connect has completed. -/
theorem FlowStep.connected_iff {f g : Flow} {e : ConnEvent} (moved : FlowStep f e g) :
    g.connected = true ↔ f.connected = true ∨ ∃ timerOk, e = .connected timerOk := by
  cases moved <;> simp

theorem FreeStep.connected_iff {f g : Flow} {e : ConnEvent} (gone : FreeStep f e g) :
    g.connected = true ↔ f.connected = true ∨ ∃ timerOk, e = .connected timerOk := by
  cases gone <;> simp

theorem adopted_connected_iff {env : AdoptEnv} {ac : WorkerStreamClientMsg} {c : Conn} {es : List ConnEvent}
    {s : Session} (adopted : workerAdoptClientFd env ac = .piped c)
    (ran : connMachine.run (.live c) es = some s) :
    s.conn.upstreamConnected = true ↔ ∃ timerOk, .connected timerOk ∈ es := by
  obtain ⟨fd, header, -, rfl⟩ := adopted_piped adopted
  refine Lib.Machine.run_traced
    (P := fun es s => s.conn.upstreamConnected = true ↔ ∃ timerOk, .connected timerOk ∈ es) ?_ ?_ ran
  · simp [Session.conn, freshConn]
  · intro es u e v _ before step
    have one : v.conn.upstreamConnected = true ↔ u.conn.upstreamConnected = true ∨ ∃ timerOk, e = .connected timerOk := by
      cases u with
      | freed d => cases step
      | live d =>
        cases v with
        | live d' => exact (step_flow step).connected_iff
        | freed d' => exact (step_freed step).connected_iff
    rw [one, before]
    simp only [List.mem_append, List.mem_singleton, exists_or, eq_comm]

/-- The branch of `stream_upstream_event_cb` that logs "unreachable code reached at BEV_EVENT_TIMEOUT". -/
def unreachableTimeout (c : Conn) (events : BevEvents) : Bool :=
  !events.connected && events.timeout && c.upstreamConnected

/-- What may be armed on a connection whose connect has completed. -/
structure ConnectTimeoutGone (c : Conn) : Prop where
  upstreamRead : c.upstream.timeoutRead = none
  upstreamWrite : c.upstream.timeoutWrite = none
  clientRead : c.closeAfterClientEof = false → c.client.timeoutRead = none
  clientWrite : c.client.timeoutWrite = none

/-- **The connect timeout never outlives the connect.** Once `BEV_EVENT_CONNECTED` has been handled nothing is armed
on the upstream, and on the client only the close-wait read timeout; an upstream timeout is delivered only before. -/
theorem connect_timeout_ends {env : AdoptEnv} {ac : WorkerStreamClientMsg} {c : Conn} {es : List ConnEvent}
    {s : Session} (adopted : workerAdoptClientFd env ac = .piped c)
    (ran : connMachine.run (.live c) es = some s) :
    ((∃ timerOk, .connected timerOk ∈ es) → ConnectTimeoutGone s.conn) ∧
    (∀ d dir cond t, s = .live d → connMachine.step s (.upstreamEvent dir cond) = some t →
      unreachableTimeout { d with upstream := d.upstream.fail dir } (cond.events dir) = false) ∧
    (∀ dir t, connMachine.step s (.upstreamEvent dir .timeout) = some t →
      ¬ ∃ timerOk, .connected timerOk ∈ es) := by
  have disarmed := adopted_disarmed adopted ran
  have connected := adopted_connected_iff adopted ran
  -- a timeout event needs a timeout in its direction, and after the connect there is none
  have early : ∀ d dir t, s = .live d → connMachine.step s (.upstreamEvent dir .timeout) = some t →
      d.upstreamConnected = false := by
    rintro d dir t rfl step
    obtain ⟨ready, -⟩ := step_live.1 step
    apply eq_false_of_ne_true
    intro late
    cases dir with
    | reading =>
      have off : d.upstream.timeoutRead = none := disarmed.upstreamRead
      simp [ConnEvent.enabled, Bufferevent.canSignal, off] at ready
    | writing =>
      have off : d.upstream.timeoutWrite = none := disarmed.upstreamWrite late
      simp [ConnEvent.enabled, Bufferevent.canSignal, off] at ready
  refine ⟨?_, ?_, ?_⟩
  · intro done
    have flag := connected.2 done
    exact ⟨disarmed.upstreamRead, disarmed.upstreamWrite flag, disarmed.clientRead, disarmed.clientWrite⟩
  · intro d dir cond t live step
    cases cond with
    | eof => rfl
    | error err => rfl
    | timeout => simp [unreachableTimeout, early d dir t live step]
  · intro dir t step done
    cases s with
    | freed d => cases step
    | live d =>
      have flag : d.upstreamConnected = true := connected.2 done
      rw [early d dir t rfl step] at flag
      cases flag

theorem connect_timeout_ends_drained :
    (∃ timerOk, ConnEvent.connected timerOk ∈ drainedRun) ∧ ConnectTimeoutGone (headedConn.after drainedRun) := by
  have ran : connMachine.run (.live headedConn) drainedRun = some (.live (headedConn.after drainedRun)) := by
    decide +kernel
  have done : ∃ timerOk, ConnEvent.connected timerOk ∈ drainedRun := ⟨true, by decide⟩
  exact ⟨done, (connect_timeout_ends headedConn_adopted ran).1 done⟩

/-! ## The close-wait -/

/-- In the close-wait the client is read, with the close-wait timeout armed, so that its close, its reset and its
silence are all reported. -/
structure CloseWaitWatched (c : Conn) : Prop where
  reading : c.client.evRead = true
  armed : c.client.timeoutRead = some closeWaitTimeoutSec
  observed : ∀ cond, ConnEvent.enabled c (.clientEvent .reading cond) = true

/-- A client read in the close-wait leaves the upstream's output below the pause mark. -/
def LateReadFits (s : Session) (e : ConnEvent) : Prop :=
  ∀ chunk, e = .clientRead chunk → s.conn.closeAfterClientEof = true →
    s.conn.upstream.output.length + chunk.length < streamReadHighWater

/-- The connect does not complete in the close-wait. -/
def ConnectsBefore (s : Session) (e : ConnEvent) : Prop :=
  ∀ timerOk, e = .connected timerOk → s.conn.closeAfterClientEof = false

/-- A step that leaves the close-wait watched. -/
structure WatchKept (s : Session) (e : ConnEvent) : Prop where
  fits : LateReadFits s e
  before : ConnectsBefore s e

/-- The close-wait as a flow sees it. -/
structure Watching (f : Flow) : Prop where
  reading : f.closeWait = true → f.client.evRead = true
  armed : f.closeWait = true → f.client.timeoutRead = some closeWaitTimeoutSec

namespace Watching

variable {f g : Flow} {e : ConnEvent}

theorem of_open (closeWait : f.closeWait = false) : Watching f where
  reading := fun closing => by simp [closeWait] at closing
  armed := fun closing => by simp [closeWait] at closing

/-- One event keeps the watch, a late client read that fits included. -/
theorem step (watching : Watching f) (input : f.client.input = []) (moved : FlowStep f e g)
    (fits : ∀ chunk, e = .clientRead chunk → f.closeWait = true →
      f.upstream.output.length + chunk.length < streamReadHighWater)
    (before : ∀ timerOk, e = .connected timerOk → f.closeWait = false) : Watching g := by
  cases moved with
  | @clientRead chunk ready =>
    refine ⟨?_, watching.armed⟩
    intro closing
    have room := fits chunk rfl closing
    simpa [input] using room
  | @connected timerOk ready => exact of_open (before timerOk rfl)
  | upstreamDrained ready empty => exact ⟨fun _ => rfl, watching.armed⟩
  | clientFinished ready empty last => exact ⟨fun _ => rfl, fun _ => rfl⟩
  | upstreamEnded ready nothing => exact ⟨fun _ => rfl, fun _ => rfl⟩
  -- the other events touch neither what the client has enabled for reading nor its read timeout
  | upstreamRead ready => exact ⟨watching.reading, watching.armed⟩
  | clientWrite ready left => exact ⟨watching.reading, watching.armed⟩
  | clientDrained ready empty normal => exact ⟨watching.reading, watching.armed⟩
  | upstreamWrite ready left => exact ⟨watching.reading, watching.armed⟩
  | upstreamLost ready kind pending => exact ⟨watching.reading, watching.armed⟩
  | idle => exact watching

theorem watched {c : Conn} (watching : Watching c.flow) (closing : c.closeAfterClientEof = true) :
    CloseWaitWatched c where
  reading := watching.reading closing
  armed := watching.armed closing
  observed := by
    intro cond
    have reading : c.client.evRead = true := watching.reading closing
    have armed : c.client.timeoutRead = some closeWaitTimeoutSec := watching.armed closing
    simp [ConnEvent.enabled, Bufferevent.canSignal, reading, armed]

end Watching

/-- Between two callbacks the client's input buffer is empty. -/
theorem adopted_input {env : AdoptEnv} {ac : WorkerStreamClientMsg} {c : Conn} {es : List ConnEvent} {s : Session}
    (adopted : workerAdoptClientFd env ac = .piped c) (ran : connMachine.run (.live c) es = some s) :
    s.conn.client.input = [] := by
  obtain ⟨d, related⟩ := adopted_relays adopted ran
  exact related.bytesIntact.clientInput

/-- As long as every step keeps the watch, the client is watched. -/
theorem adopted_watching {env : AdoptEnv} {ac : WorkerStreamClientMsg} {c d : Conn} {es : List ConnEvent}
    (adopted : workerAdoptClientFd env ac = .piped c) (ran : connMachine.run (.live c) es = some (.live d))
    (along : connMachine.Along WatchKept (.live c) es) : Watching d.flow := by
  refine Lib.Machine.run_traced
    (P := fun es s => connMachine.Along WatchKept (.live c) es → ∀ d, s = .live d → Watching d.flow)
    ?_ ?_ ran along d rfl
  · rintro - d live
    obtain ⟨fd, header, -, rfl⟩ := adopted_piped adopted
    cases live
    exact .of_open rfl
  · rintro es u e v before kept step along d rfl
    obtain ⟨earlier, last⟩ := Lib.Machine.along_snoc.1 along
    cases u with
    | freed d' => cases step
    | live d' =>
      have keeps := last _ before
      exact (kept earlier d' rfl).step (adopted_input adopted before) (step_flow step) keeps.fits keeps.before

/-- A client read keeps the phase and pauses the client exactly when the output has reached the mark. -/
theorem clientRead_watch {c c' : Conn} {chunk : Bytes} (input : c.client.input = [])
    (step : connMachine.step (.live c) (.clientRead chunk) = some (.live c')) :
    c'.closeAfterClientEof = c.closeAfterClientEof ∧
      c'.upstream.output.length = c.upstream.output.length + chunk.length ∧
      c'.client = { c.client with
        received := c.client.received ++ chunk
        evRead := decide (c.upstream.output.length + chunk.length < streamReadHighWater) } := by
  have moved := step_flow step
  generalize after : c'.flow = g at moved
  cases moved with
  | clientRead ready =>
    simp only [Conn.flow, Flow.mk.injEq] at after
    obtain ⟨client, upstream, -, closeWait, -⟩ := after
    rw [client, closeWait, upstream]
    simp [input]

/-- A connect that completes disarms the client's timeouts and keeps the phase. -/
theorem connected_unarmed {c c' : Conn} {timerOk : Bool}
    (step : connMachine.step (.live c) (.connected timerOk) = some (.live c')) :
    c'.closeAfterClientEof = c.closeAfterClientEof ∧ c'.client.timeoutRead = none := by
  have moved := step_flow step
  generalize after : c'.flow = g at moved
  cases moved with
  | connected ready =>
    simp only [Conn.flow, Flow.mk.injEq] at after
    obtain ⟨client, -, -, closeWait, -⟩ := after
    rw [client, closeWait]
    exact ⟨rfl, rfl⟩

/-- A step between two close-wait states, the second of them watched, has kept the watch. -/
theorem WatchKept.of_watched {c c' : Conn} {e : ConnEvent} (input : c.client.input = [])
    (step : connMachine.step (.live c) e = some (.live c'))
    (watched : c'.closeAfterClientEof = true → CloseWaitWatched c') : WatchKept (.live c) e where
  fits := by
    rintro chunk rfl closing
    obtain ⟨kept, -, client⟩ := clientRead_watch input step
    have reading := (watched (kept.trans closing)).reading
    rw [client] at reading
    exact of_decide_eq_true reading
  before := by
    rintro timerOk rfl
    apply eq_false_of_ne_true
    intro closing
    obtain ⟨kept, unarmed⟩ := connected_unarmed step
    have armed := (watched (kept.trans closing)).armed
    rw [unarmed] at armed
    cases armed

/-- A step that frees the connection is neither a client read nor the end of the connect. -/
theorem WatchKept.of_freed {c c' : Conn} {e : ConnEvent} (step : connMachine.step (.live c) e = some (.freed c')) :
    WatchKept (.live c) e := by
  have gone := step_freed step
  constructor
  · rintro chunk rfl
    cases gone
  · rintro timerOk rfl
    cases gone

/-- **Close-wait keeps watching the client exactly while late reads fit and no connect is late.** Every live state of
a run with `close_after_client_eof` set is watched iff no client read in the close-wait fills the output of the
disabled upstream up to the pause mark and no connect completes in the close-wait. -/
theorem close_wait_watched_iff {env : AdoptEnv} {ac : WorkerStreamClientMsg} {c : Conn} {es : List ConnEvent}
    {s : Session} (adopted : workerAdoptClientFd env ac = .piped c)
    (ran : connMachine.run (.live c) es = some s) :
    (∀ ds d, ds <+: es → connMachine.run (.live c) ds = some (.live d) → d.closeAfterClientEof = true →
      CloseWaitWatched d) ↔
    connMachine.Along WatchKept (.live c) es := by
  constructor
  · intro watched
    rw [Lib.Machine.along_iff]
    intro ds e cut u before
    -- the step is part of the run, so its result is one of the watched states
    obtain ⟨rest, rfl⟩ := cut
    obtain ⟨v, reached, -⟩ := Lib.Machine.run_append.1 ran
    obtain ⟨u', again, step⟩ := Lib.Machine.run_snoc.1 reached
    rw [before] at again
    cases again
    cases u with
    | freed d => cases step
    | live d =>
      cases v with
      | freed d' => exact .of_freed step
      | live d' =>
        apply WatchKept.of_watched (adopted_input adopted before) step
        intro closing
        exact watched _ _ (List.prefix_append _ rest) reached closing
  · intro along ds d cut reached closing
    have shorter : connMachine.Along WatchKept (.live c) ds := by
      rw [Lib.Machine.along_iff] at along ⊢
      intro ds' e cut'
      exact along ds' e (cut'.trans cut)
    exact (adopted_watching adopted reached shorter).watched closing

theorem close_wait_watched_drained :
    (headedConn.after drainedRun).closeAfterClientEof = true ∧ CloseWaitWatched (headedConn.after drainedRun) := by
  have ran : connMachine.run (.live headedConn) drainedRun = some (.live (headedConn.after drainedRun)) := by
    decide +kernel
  have closing : (headedConn.after drainedRun).closeAfterClientEof = true := by decide +kernel
  have along : connMachine.Along WatchKept (.live headedConn) drainedRun := by
    have rest : ∀ t, connMachine.Along WatchKept t drainedRun.tail := by
      intro t
      apply Lib.Machine.along_of_forall
      intro e mem s
      constructor
      · rintro chunk rfl
        simp [drainedRun] at mem
      · rintro timerOk rfl
        simp [drainedRun] at mem
    exact And.intro ⟨fun _ read => (nomatch read), fun _ _ => rfl⟩ fun t _ => rest t
  exact ⟨closing, (close_wait_watched_iff headedConn_adopted ran).2 along _ _ (List.prefix_refl _) ran closing⟩

/-- An upstream that ends before its connect completes. -/
def eofFirstRun : List ConnEvent := [.upstreamEvent .reading .eof, .connected true]

/-- A client that keeps sending after the half-close is no longer read, and its timeout can no longer fire; a connect
that completes after the half-close disarms that timeout. -/
theorem close_wait_pinned :
    workerAdoptClientFd smoothEnv headedMsg = .piped headedConn ∧
    (∃ d, connMachine.run (.live headedConn) (drainedRun ++ [.clientRead fullRead, .clientRead fullRead]) =
        some (.live d) ∧
      d.closeAfterClientEof = true ∧ ¬ CloseWaitWatched d) ∧
    ∃ d, connMachine.run (.live headedConn) eofFirstRun = some (.live d) ∧
      d.closeAfterClientEof = true ∧ ¬ CloseWaitWatched d := by
  refine ⟨headedConn_adopted, ?_, ?_⟩
  · have ran : connMachine.run (.live headedConn) drainedRun = some (.live (headedConn.after drainedRun)) := by
      decide +kernel
    have backlog : Backlog (headedConn.after drainedRun).flow true false 28 := by
      refine ⟨(adopted_clientBound headedConn_adopted ran).tuned, ?_, ?_, ?_, ?_, ?_, ?_, ?_⟩
      all_goals decide +kernel
    have closing : (headedConn.after drainedRun).closeAfterClientEof = true := by decide +kernel
    generalize headedConn.after drainedRun = c at ran backlog closing
    obtain ⟨c₁, first, backlog₁, -⟩ := backlog.clientRead
    obtain ⟨c₂, second, backlog₂, -⟩ := backlog₁.clientRead
    refine ⟨c₂, ?_, ?_, ?_⟩
    · exact Lib.Machine.run_append.2 ⟨_, ran, Lib.Machine.run_cons.2 ⟨_, first, Lib.Machine.run_single.2 second⟩⟩
    · rw [(clientRead_watch backlog₁.tuned.client.input second).1,
        (clientRead_watch backlog.tuned.client.input first).1]
      exact closing
    · intro watched
      exact absurd (backlog₂.reads.symm.trans watched.reading) (by decide)
  · have ran : connMachine.run (.live headedConn) eofFirstRun = some (.live (headedConn.after eofFirstRun)) := by
      decide +kernel
    refine ⟨headedConn.after eofFirstRun, ran, by decide +kernel, ?_⟩
    intro watched
    exact absurd watched.armed (by decide +kernel)

end Tinyproxy
