import Tinyproxy.Stream.Timeouts

/-!
# The idle timer

`conn_idle_timeout_cb` frees the connection when `activity_seq` still has the value
it had at the previous firing. Only the two read callbacks bump it, so bytes that
leave an output buffer do not count as activity: `idle_timer_spares_iff` says which
intervals between two firings a connection survives.
-/

namespace Tinyproxy

/-- The fields of a connection its idle timer reads and writes. -/
structure IdleTimer where
  activity : UInt64
  check : UInt64
  pending : Bool

def Conn.timer (c : Conn) : IdleTimer := ⟨c.activitySeq, c.idleCheckSeq, c.idlePending⟩

/-- The events an interval of the idle timer starts with: `start_conn_idle_timer` runs in the first, the second is a
firing. -/
def ConnEvent.startsInterval : ConnEvent → Bool
  | .connected _ | .idleTimeout => true
  | _ => false

/-- How many bytes the event moves through one of the two sockets. -/
def ConnEvent.bytesMoved : ConnEvent → Nat
  | .clientRead chunk | .upstreamRead chunk => chunk.length
  | .clientWrite n | .upstreamWrite n => n
  | _ => 0

/-- The read callbacks: the only events that bump `activity_seq`. -/
def ConnEvent.isRead : ConnEvent → Bool
  | .clientRead _ | .upstreamRead _ => true
  | _ => false

/-! ## What one event does to the timer -/

theorem pipeClientReadCb_timer (c : Conn) :
    (pipeClientReadCb c).timer = { c.timer with activity := c.activitySeq + 1 } := by
  simp only [pipeClientReadCb, connTouch]
  split <;> split <;> rfl

theorem pipeUpstreamReadCb_timer (c : Conn) :
    (pipeUpstreamReadCb c).timer = { c.timer with activity := c.activitySeq + 1 } := by
  by_cases full : streamReadHighWater ≤ c.client.output.length + c.upstream.input.length
  · simp [pipeUpstreamReadCb, connTouch, evbufferAddBuffer, full, Conn.timer]
  · simp [pipeUpstreamReadCb, connTouch, evbufferAddBuffer, full, Conn.timer]

theorem pipeClientWriteCb_timer (c : Conn) : (pipeClientWriteCb c).timer = c.timer := by
  simp only [pipeClientWriteCb]
  split
  · rfl
  · split <;> rfl

theorem pipeUpstreamWriteCb_timer (c : Conn) : (pipeUpstreamWriteCb c).timer = c.timer := by
  simp only [pipeUpstreamWriteCb]
  split <;> rfl

theorem drainClientThenClose_timer (c : Conn) : (drainClientThenClose c).timer = c.timer := by
  simp only [drainClientThenClose]
  split <;> rfl

theorem upstreamEvent_timer {c c' : Conn} {dir : Direction} {cond : Condition}
    (handled : c.handle (.upstreamEvent dir cond) = .live c') : c'.timer = c.timer := by
  have drained : drainClientThenClose { c with upstream := c.upstream.fail dir } = c' := by
    cases cond with
    | timeout => simp [Conn.handle, streamUpstreamEventCb, Condition.events, freeConn] at handled
    | eof => simpa [Conn.handle, streamUpstreamEventCb, Condition.events] using handled
    | error err =>
      simp only [Conn.handle, streamUpstreamEventCb, Condition.events, Bool.false_eq_true, if_false, if_true] at handled
      split at handled
      · cases handled
        rfl
      · cases handled
  rw [← drained]
  exact drainClientThenClose_timer _

/-- **Within an interval** the timer stays scheduled and only a read callback moves a counter. -/
theorem step_timer {c c' : Conn} {e : ConnEvent} (step : connMachine.step (.live c) e = some (.live c'))
    (within : e.startsInterval = false) :
    c'.timer = { c.timer with activity := c.activitySeq + UInt64.ofNat (if e.isRead then 1 else 0) } := by
  obtain ⟨-, handled⟩ := step_live.1 step
  have still : ({ c.timer with activity := c.activitySeq + UInt64.ofNat 0 } : IdleTimer) = c.timer := by
    simp [Conn.timer]
  cases e with
  | connected timerOk => cases within
  | idleTimeout => cases within
  | clientRead chunk =>
    cases handled
    exact pipeClientReadCb_timer _
  | upstreamRead chunk =>
    cases handled
    exact pipeUpstreamReadCb_timer _
  | clientWrite n =>
    refine Eq.trans ?_ still.symm
    simp only [Conn.handle] at handled
    split at handled
    · cases handled
      exact pipeClientWriteCb_timer _
    · cases handled
      rfl
  | upstreamWrite n =>
    refine Eq.trans ?_ still.symm
    simp only [Conn.handle] at handled
    split at handled
    · cases handled
      exact pipeUpstreamWriteCb_timer _
    · cases handled
      rfl
  | clientEvent dir cond => exact absurd handled clientEvent_not_live
  | upstreamEvent dir cond => exact (upstreamEvent_timer handled).trans still.symm

/-- Nothing runs after `free_conn`. -/
theorem run_to_live {s : Session} {es : List ConnEvent} {d : Conn} (ran : connMachine.run s es = some (.live d)) :
    ∃ c, s = .live c := by
  cases s with
  | live c => exact ⟨c, rfl⟩
  | freed c => cases es <;> cases ran

/-- Along an interval `activity_seq` counts the read callbacks, modulo its width. -/
theorem interval_timer {c c' : Conn} {mid : List ConnEvent} (ran : connMachine.run (.live c) mid = some (.live c'))
    (within : ∀ e ∈ mid, e.startsInterval = false) :
    c'.timer = { c.timer with activity := c.activitySeq + UInt64.ofNat (mid.countP ConnEvent.isRead) } := by
  induction mid generalizing c with
  | nil =>
    cases ran
    simp [Conn.timer]
  | cons e mid ih =>
    obtain ⟨u, step, rest⟩ := Lib.Machine.run_cons.1 ran
    obtain ⟨d, rfl⟩ := run_to_live rest
    have one := step_timer step (within e List.mem_cons_self)
    have more := ih rest fun e' mem => within e' (List.mem_cons_of_mem e mem)
    have bumped : d.activitySeq = c.activitySeq + UInt64.ofNat (if e.isRead then 1 else 0) :=
      congrArg IdleTimer.activity one
    rw [more, one, bumped, List.countP_cons]
    simp only [IdleTimer.mk.injEq, and_true, UInt64.ofNat_add]
    ac_rfl

/-! ## Firing -/

/-- Whatever `start_conn_idle_timer` schedules starts with equal counters. -/
theorem startConnIdleTimer_even {c : Conn} {timerOk : Bool} (idle : c.idlePending = false)
    (pending : (startConnIdleTimer c timerOk).idlePending = true) :
    (startConnIdleTimer c timerOk).activitySeq = (startConnIdleTimer c timerOk).idleCheckSeq := by
  unfold startConnIdleTimer at pending ⊢
  by_cases never : c.route.opts.idleTimeoutSec ≤ 0
  · -- without an idle timeout nothing is scheduled
    rw [if_pos never, idle] at pending
    cases pending
  · rw [if_neg never]
    cases timerOk with
    | false => rfl
    | true => simp [scheduleConnIdleTimer, never]

/-- Only the end of the connect changes `connecting`. -/
theorem FlowStep.connecting {f g : Flow} {e : ConnEvent} (moved : FlowStep f e g) :
    g.upstream.connecting = true → f.upstream.connecting = true ∧ ∀ timerOk, e ≠ .connected timerOk := by
  cases moved with
  | connected ready =>
    intro connecting
    cases connecting
  | clientRead ready => exact fun connecting => ⟨connecting, nofun⟩
  | upstreamRead ready => exact fun connecting => ⟨connecting, nofun⟩
  | clientWrite ready left => exact fun connecting => ⟨connecting, nofun⟩
  | clientDrained ready empty normal => exact fun connecting => ⟨connecting, nofun⟩
  | clientFinished ready empty last => exact fun connecting => ⟨connecting, nofun⟩
  | upstreamWrite ready left => exact fun connecting => ⟨connecting, nofun⟩
  | upstreamDrained ready empty => exact fun connecting => ⟨connecting, nofun⟩
  | upstreamLost ready kind pending => exact fun connecting => ⟨f.upstream.stopped_connecting connecting, nofun⟩
  | upstreamEnded ready nothing => exact fun connecting => ⟨f.upstream.stopped_connecting connecting, nofun⟩
  | idle => exact fun connecting => ⟨connecting, nofun⟩

/-- The timer is scheduled only once the connect has completed. -/
theorem adopted_unscheduled {env : AdoptEnv} {ac : WorkerStreamClientMsg} {c d : Conn} {es : List ConnEvent}
    (adopted : workerAdoptClientFd env ac = .piped c) (ran : connMachine.run (.live c) es = some (.live d))
    (connecting : d.upstream.connecting = true) : d.idlePending = false := by
  refine Lib.Machine.run_invariant
    (I := fun s => ∀ d, s = .live d → d.upstream.connecting = true → d.idlePending = false) ?_ ?_ ran d rfl connecting
  · rintro s e t before step d rfl connecting
    cases s with
    | freed d' => cases step
    | live d' =>
      obtain ⟨still, other⟩ := (step_flow step).connecting connecting
      have idle : d'.idlePending = false := before d' rfl still
      by_cases starts : e.startsInterval = true
      · cases e with
        | connected timerOk => exact absurd rfl (other timerOk)
        | idleTimeout =>
          -- a timer that is not scheduled does not fire
          have ready := (step_live.1 step).1
          simp [ConnEvent.enabled, idle] at ready
        | _ => cases starts
      · have kept := congrArg IdleTimer.pending (step_timer step (eq_false_of_ne_true starts))
        exact kept.trans idle
  · rintro d live -
    obtain ⟨fd, header, -, rfl⟩ := adopted_piped adopted
    cases live
    rfl

/-- An interval whose timer is scheduled starts with equal counters. -/
theorem interval_start {c c' : Conn} {e : ConnEvent} (step : connMachine.step (.live c) e = some (.live c'))
    (starts : e.startsInterval = true) (unscheduled : c.upstream.connecting = true → c.idlePending = false)
    (pending : c'.idlePending = true) : c'.activitySeq = c'.idleCheckSeq := by
  obtain ⟨ready, handled⟩ := step_live.1 step
  cases e with
  | idleTimeout =>
    simp only [Conn.handle, connIdleTimeoutCb] at handled
    split at handled
    · cases handled
      simp only [scheduleConnIdleTimer]
      split
      · rfl
      · split <;> rfl
    · cases handled
  | connected timerOk =>
    have connecting : c.upstream.connecting = true := ready
    simp only [Conn.handle, streamUpstreamEventCb, if_true, Session.live.injEq] at handled
    subst handled
    exact startConnIdleTimer_even (c := clearIdleTimeout _) (unscheduled connecting) pending
  | _ => cases starts

/-- A firing frees the connection exactly when the counters are equal. -/
theorem idleTimeout_live_iff {c : Conn} {s : Session} (step : connMachine.step (.live c) .idleTimeout = some s) :
    (∃ d, s = .live d) ↔ c.activitySeq ≠ c.idleCheckSeq := by
  obtain ⟨-, handled⟩ := step_live.1 step
  simp only [Conn.handle, connIdleTimeoutCb] at handled
  split at handled
  · rename_i moved
    cases handled
    exact ⟨fun _ => moved, fun _ => ⟨_, rfl⟩⟩
  · rename_i equal
    cases handled
    constructor
    · rintro ⟨d, live⟩
      cases live
    · intro moved
      exact absurd moved equal

/-- Counting on from a number comes back to it exactly at the multiples of the counter's range. -/
theorem counted_ne_iff (a : UInt64) (n : Nat) : a + UInt64.ofNat n ≠ a ↔ n % 18446744073709551616 ≠ 0 := by
  rw [ne_eq, ne_eq, not_iff_not, ← UInt64.toNat_inj, UInt64.toNat_add, UInt64.toNat_ofNat']
  have bound := a.toNat_lt
  omega

/-- The firing that ends an interval frees the connection exactly when no read callback ran in it. -/
theorem interval_end {env : AdoptEnv} {ac : WorkerStreamClientMsg} {c : Conn} {start : ConnEvent}
    {before mid : List ConnEvent} {s : Session} (adopted : workerAdoptClientFd env ac = .piped c)
    (ran : connMachine.run (.live c) (before ++ start :: (mid ++ [.idleTimeout])) = some s)
    (starts : start.startsInterval = true) (within : ∀ e ∈ mid, e.startsInterval = false) :
    (∃ d, s = .live d) ↔ mid.countP ConnEvent.isRead % 18446744073709551616 ≠ 0 := by
  obtain ⟨u, first, rest⟩ := Lib.Machine.run_append.1 ran
  obtain ⟨v, opened, rest⟩ := Lib.Machine.run_cons.1 rest
  obtain ⟨w, interval, fired⟩ := Lib.Machine.run_snoc.1 rest
  cases w with
  | freed d => cases fired
  | live d =>
    obtain ⟨c₁, rfl⟩ := run_to_live interval
    obtain ⟨c₀, rfl⟩ := run_to_live (Lib.Machine.run_single.2 opened)
    have counted := interval_timer interval within
    have scheduled : d.idlePending = true := (step_live.1 fired).1
    have pending : c₁.idlePending = true := (congrArg IdleTimer.pending counted).symm.trans scheduled
    have even := interval_start opened starts (adopted_unscheduled adopted first) pending
    have activity : d.activitySeq = c₁.activitySeq + UInt64.ofNat (mid.countP ConnEvent.isRead) :=
      congrArg IdleTimer.activity counted
    have check : d.idleCheckSeq = c₁.idleCheckSeq := congrArg IdleTimer.check counted
    rw [idleTimeout_live_iff fired, activity, check, ← even, counted_ne_iff]

/-- **Which active connections the idle timer spares.** `mid` is what happens between two consecutive firings, or
between the start of the timer and its first firing. That the later firing leaves a connection alive which has moved
a byte in between holds iff a read callback ran in between or nothing moved at all; the read callbacks are counted
as `activity_seq` counts them, modulo its range. -/
theorem idle_timer_spares_iff {env : AdoptEnv} {ac : WorkerStreamClientMsg} {c : Conn} {start : ConnEvent}
    {before mid : List ConnEvent} {s : Session} (adopted : workerAdoptClientFd env ac = .piped c)
    (ran : connMachine.run (.live c) (before ++ start :: (mid ++ [.idleTimeout])) = some s)
    (starts : start.startsInterval = true) (within : ∀ e ∈ mid, e.startsInterval = false) :
    ((∃ e ∈ mid, 0 < e.bytesMoved) → ∃ d, s = .live d) ↔
      (mid.countP ConnEvent.isRead % 18446744073709551616 ≠ 0 ∨ ∀ e ∈ mid, e.bytesMoved = 0) := by
  rw [interval_end adopted ran starts within]
  constructor
  · intro spared
    by_cases active : ∃ e ∈ mid, 0 < e.bytesMoved
    · exact .inl (spared active)
    · right
      intro e mem
      have still : ¬ 0 < e.bytesMoved := fun moved => active ⟨e, mem, moved⟩
      omega
  · rintro (reads | silent) ⟨e, mem, moved⟩
    · exact reads
    · have nothing := silent e mem
      omega

/-- A response of which the first firing sees the read. -/
def readIntervalRun : List ConnEvent := [.connected true, .upstreamRead [4, 5], .idleTimeout]

theorem idle_timer_spares_read :
    ∃ d, connMachine.run (.live headedConn) readIntervalRun = some (.live d) := by
  have ran : connMachine.run (.live headedConn) readIntervalRun = some (.live (headedConn.after readIntervalRun)) := by
    decide +kernel
  have spared := (@idle_timer_spares_iff _ _ _ (.connected true) [] [.upstreamRead [4, 5]] _
    headedConn_adopted ran rfl (by decide)).2 (.inl (by decide)) (by decide)
  obtain ⟨d, live⟩ := spared
  exact ⟨d, ran.trans (congrArg _ live)⟩

/-- The same response, written to a slow client one byte an interval: the second firing cuts it off. -/
theorem idle_timer_cuts_drain :
    workerAdoptClientFd smoothEnv headedMsg = .piped headedConn ∧
    ∃ d, connMachine.run (.live headedConn)
        ([.connected true, .upstreamRead [4, 5]] ++ .idleTimeout :: ([.clientWrite 1] ++ [.idleTimeout])) = some (.freed d) ∧
      0 < (ConnEvent.clientWrite 1).bytesMoved ∧ d.client.sent = [4] ∧ d.client.output = [5] := by
  refine ⟨headedConn_adopted, headedConn.after (readIntervalRun ++ [.clientWrite 1, .idleTimeout]), ?_⟩
  decide +kernel

end Tinyproxy
